import BetterDesk.Billing.Metering

/-! # Session rows and work reports (billing/service.go, billing/period_service.go, db/sqlite_billing.go) -/

namespace BetterDesk.Billing.Reports
open Db Text

variable {A : Type}

structure SessionRow (A : Type) extends BillingSession where
  amountIncluded : A
  amountOverage : A

structure Running (A : Type) extends ActiveSession where
  overageRate : A
  hourlyRate : A

structure WorkReport where
  operatorID : Bytes
  summary : Bytes
  category : Bytes
  ticketRef : Bytes

/-- `charge` is what some minutes cost at an hourly rate. -/
structure Setup (A : Type) where
  cfg : Config
  zero : A
  add : A → A → A
  charge : ℕ → A → A
  scansNull : Bool

structure Books (A : Type) where
  meter : Meter
  rates : String → A × Option A
  packageRate : String → A
  sessions : List (SessionRow A)
  reports : ℕ → Option WorkReport
  active : SyncMap String (Running A)

inductive Op (A : Type)
  | meter (op : Billing.Op)
  | contractRates (contractID : String)
  | packageRate (packageID : String)
  | createBillingSession (row : SessionRow A)
  | getBillingSession (id : ℕ)
  | updateBillingSession (id : ℕ) (row : SessionRow A)
  | getBillingWorkReport (id : ℕ)
  | createBillingWorkReport (id : ℕ) (report : WorkReport)
  | putActive (a : Running A)
  | takeActive (relayUUID : String)
  | snapshotActive
  | syncActive (relayUUID : String) (startedAt remainingAtStart : ℕ)
  | updateProgress (relayUUID : String) (billedMin : ℕ)

/-- Only for a write of a session row or a report does a caller look at its success. -/
abbrev Res : Op A → Type
  | .meter op => Billing.Res op
  | .contractRates _ => A × Option A
  | .packageRate _ => A
  | .createBillingSession _ => Option ℕ
  | .getBillingSession _ => Option (SessionRow A)
  | .updateBillingSession _ _ => Bool
  | .getBillingWorkReport _ => Option WorkReport
  | .createBillingWorkReport _ _ => Bool
  | .takeActive _ => Option (Running A)
  | .snapshotActive => List (Running A)
  | _ => Unit

abbrev Prog (A : Type) := Programs.Prog (Op A) Res

namespace Running

def synced (a : Running A) (startedAt remainingAtStart : ℕ) : Running A :=
  {a with toActiveSession := a.toActiveSession.synced startedAt remainingAtStart}

def progressed (a : Running A) (billedMin : ℕ) : Running A :=
  {a with toActiveSession := a.toActiveSession.progressed billedMin}

end Running

def Books.updateActive (s : Books A) (relayUUID : String) (f : Running A → Running A) : Books A :=
  match s.active.load relayUUID with
  | none => s
  | some cur => {s with active := s.active.store relayUUID (f cur)}

variable (setup : Setup A)

def perform (s : Books A) : (op : Op A) → Res op × Books A
  | .meter op =>
    let (r,meter):=Billing.perform s.meter op
    (r,{s with meter := meter})
  | .contractRates contractID => (s.rates contractID,s)
  | .packageRate packageID => (s.packageRate packageID,s)
  | .createBillingSession row => (some s.sessions.length,{s with sessions := s.sessions++[row]})
  | .getBillingSession id => (s.sessions[id]?.filter fun row => setup.scansNull||row.endedAt.isSome,s)
  | .updateBillingSession id row => (true,{s with sessions := s.sessions.set id row})
  | .getBillingWorkReport id => (s.reports id,s)
  | .createBillingWorkReport id report =>
    if (s.reports id).isSome then (false,s)
    else (true,{s with reports := Function.update s.reports id (some report)})
  | .putActive a => ((),{s with active := s.active.store a.relayUUID a})
  | .takeActive relayUUID => (s.active.load relayUUID,{s with active := s.active.delete relayUUID})
  | .snapshotActive => (s.active.map Prod.snd,s)
  | .syncActive relayUUID startedAt remainingAtStart =>
    ((),s.updateActive relayUUID fun cur => cur.synced startedAt remainingAtStart)
  | .updateProgress relayUUID billedMin => ((),s.updateActive relayUUID fun cur => cur.progressed billedMin)

def failure : (op : Op A) → Option (Res op)
  | .meter op => Billing.failure op
  | .createBillingSession _ => some none
  | .getBillingSession _ => some none
  | .updateBillingSession _ _ => some false
  | .getBillingWorkReport _ => some none
  | .createBillingWorkReport _ _ => some false
  | _ => none

def run (s : Books A) (op : Op A) (fails : Bool) : Res op × Books A :=
  if fails then match failure op with
    | some r => (r,s)
    | none => perform setup s op
  else perform setup s op

def tick (s : Books A) (elapsed : ℕ) : Books A := {s with meter := Billing.tick s.meter elapsed}

def ask (op : Op A) : Prog A (Res op) := Programs.Prog.perform op

def metered {α : Type} (x : Billing.Prog α) : Prog A α := x.within fun op => ask (.meter op)

def overageRate (contract : ContractRow) (hourly : A) (rate : Option A) : Prog A A :=
  match rate with
  | some rate => pure rate
  | none => do
    match ← metered (Billing.ask (.getBillingPackage contract.packageID)) with
    | none => pure hourly
    | some _ => ask (.packageRate contract.packageID)

def activateRelay (relayUUID : String) : Prog A Unit := do
  if relayUUID="" then pure ()
  else match ← metered (Billing.ask (.takePending relayUUID)) with
    | none => pure ()
    | some p => match ← metered (Billing.ask (.getBillingContract p.contractID)) with
      | none => pure ()
      | some contract =>
        metered (ensureContractPeriod setup.cfg contract)
        match ← metered (Billing.ask (.getBillingContract p.contractID)) with
        | none => pure ()
        | some contract =>
          let (hourly,rate) ← ask (.contractRates p.contractID)
          let overage ← overageRate contract hourly rate
          let now ← metered (Billing.ask .now)
          let row : SessionRow A := ⟨⟨p.orgID,p.contractID,p.operatorID,p.deviceID,relayUUID,p.currency,.active,
            .included,now,none,0,0,0,0⟩,setup.zero,setup.zero⟩
          match ← ask (.createBillingSession row) with
          | none => pure ()
          | some id =>
            ask (.putActive ⟨⟨id,p.contractID,relayUUID,now,contract.remainingMinutes,.included,0⟩,overage,hourly⟩)

def settleSegment (a : Running A) (boundary : ℕ) : Prog A (Running A) := do
  let roundMin ← metered (roundMinForContract setup.cfg a.contractID)
  let billedMin:=roundUpMinutes (rawSeconds a.startedAt boundary) roundMin
  let includedUsed:=min billedMin a.remainingAtStart
  let overageMin:=billedMin-a.remainingAtStart
  let seg : Segment := ⟨a.id,a.contractID,a.startedAt,boundary,includedUsed⟩
  let (packageID,limitSnap,remaining) ← metered (settleContract setup.cfg a.toActiveSession seg)
  metered (applyUsageToPeriod setup.cfg a.contractID packageID a.startedAt includedUsed overageMin limitSnap)
  match ← ask (.getBillingSession a.id) with
  | none => pure ()
  | some sess =>
    let _ ← ask (.updateBillingSession a.id {sess with
      billedMinutes := sess.billedMinutes+billedMin
      includedMinutesUsed := sess.includedMinutesUsed+includedUsed
      overageMinutes := sess.overageMinutes+overageMin
      amountIncluded := setup.add sess.amountIncluded (setup.charge includedUsed a.hourlyRate)
      amountOverage := setup.add sess.amountOverage (setup.charge overageMin a.overageRate)})
  ask (.syncActive a.relayUUID boundary remaining)
  pure (a.synced boundary remaining)

/-- `fuel` bounds the months up to `now`. -/
def settleMonths (now : ℕ) : ℕ → Running A → Prog A (Running A)
  | 0, a => pure a
  | fuel+1, a => match setup.cfg.cal.splitAtMonthBoundary a.startedAt now with
    | none => pure a
    | some boundary => do
      let a ← settleSegment setup a boundary
      settleMonths now fuel a

def settleCrossingMonth (a : Running A) : Prog A (Running A) := do
  let now ← metered (Billing.ask .now)
  settleMonths setup now (setup.cfg.cal.periodAt now-setup.cfg.cal.periodAt a.startedAt) a

def finalizeSession (a : Running A) : Prog A Unit := do
  let a ← settleCrossingMonth setup a
  let now ← metered (Billing.ask .now)
  let roundMin ← metered (roundMinForContract setup.cfg a.contractID)
  let billedMin:=roundUpMinutes (rawSeconds a.startedAt now) roundMin
  let includedUsed:=min billedMin a.remainingAtStart
  let overageMin:=billedMin-a.remainingAtStart
  let seg : Segment := ⟨a.id,a.contractID,a.startedAt,now,includedUsed⟩
  match ← ask (.getBillingSession a.id) with
  | none => pure ()
  | some sess =>
    let _ ← ask (.updateBillingSession a.id {sess with
      endedAt := some now
      rawSeconds := rawSeconds sess.startedAt now
      billedMinutes := sess.billedMinutes+billedMin
      includedMinutesUsed := sess.includedMinutesUsed+includedUsed
      overageMinutes := sess.overageMinutes+overageMin
      phase := if 0<overageMin then .overage else .included
      amountIncluded := setup.add sess.amountIncluded (setup.charge includedUsed a.hourlyRate)
      amountOverage := setup.add sess.amountOverage (setup.charge overageMin a.overageRate)
      status := if setup.cfg.requireReport then .pendingReport else .closed})
    metered (finalizeContract setup.cfg a.toActiveSession seg overageMin)

def endRelay (relayUUID : String) : Prog A Unit := do
  if relayUUID="" then pure ()
  else match ← ask (.takeActive relayUUID) with
    | none => pure ()
    | some a => finalizeSession setup a

def updateActiveProgress (a : Running A) : Prog A Unit := do
  let now ← metered (Billing.ask .now)
  ask (.updateProgress a.relayUUID (roundUpMinutes (rawSeconds a.startedAt now) setup.cfg.roundMin))

def tickCopies : List (Running A) → Prog A Unit
  | [] => pure ()
  | a::rest => do
    let a ← settleCrossingMonth setup a
    updateActiveProgress setup a
    tickCopies rest

structure MapOrder (A : Type) where
  apply : List (Running A) → List (Running A)
  perm : ∀ l, (apply l).Perm l

def tickActive (order : MapOrder A) : Prog A Unit := do
  let snap ← ask .snapshotActive
  tickCopies setup (order.apply snap)

inductive Refusal
  | summaryRequired
  | noSession
  | alreadyClosed
  | alreadySubmitted
  | database

def submitWorkReport (sessionID : ℕ) (operatorID summary category ticketRef : Bytes) : Prog A (Except Refusal Unit) := do
  if summary.take 8000=[] then pure (.error .summaryRequired)
  else match ← ask (.getBillingSession sessionID) with
    | none => pure (.error .noSession)
    | some sess =>
      if sess.status=.closed then pure (.error .alreadyClosed)
      else if (← ask (.getBillingWorkReport sessionID)).isSome then pure (.error .alreadySubmitted)
      else if (← ask (.createBillingWorkReport sessionID
          ⟨operatorID,summary.take 8000,category.take 128,ticketRef.take 128⟩))=false then pure (.error .database)
      else if (← ask (.updateBillingSession sessionID {sess with status := .closed}))=false then pure (.error .database)
      else pure (.ok ())

inductive Request (A : Type)
  | checkConnection (deviceID : PeerID)
  | prepareRelay (relayUUID : String) (deviceID operatorID : PeerID)
  | activateRelay (relayUUID : String)
  | endRelay (relayUUID : String)
  | tick (order : MapOrder A)
  | submitWorkReport (sessionID : ℕ) (operatorID summary category ticketRef : Bytes)

def handle : Request A → Prog A (Except Refusal Unit)
  | .checkConnection deviceID => do
    let _ ← metered (checkConnection setup.cfg deviceID)
    pure (.ok ())
  | .prepareRelay relayUUID deviceID operatorID => do
    let _ ← metered (prepareRelay setup.cfg relayUUID deviceID operatorID)
    pure (.ok ())
  | .activateRelay relayUUID => do
    activateRelay setup relayUUID
    pure (.ok ())
  | .endRelay relayUUID => do
    endRelay setup relayUUID
    pure (.ok ())
  | .tick order => do
    tickActive setup order
    metered (Billing.ask .sweepStalePending)
    pure (.ok ())
  | .submitWorkReport sessionID operatorID summary category ticketRef =>
    submitWorkReport sessionID operatorID summary category ticketRef

abbrev Process (A : Type) := Programs.Process (Books A) (Request A) (Op A) Res (Except Refusal Unit)

abbrev System (A : Type) := Programs.Sys (Books A) (Request A) (Op A) Res (Except Refusal Unit)

abbrev Act (A : Type) := Programs.Act (Request A) ℕ

def step : System A → Act A → Option (System A) := Programs.step (run setup) (handle setup) tick

end BetterDesk.Billing.Reports
