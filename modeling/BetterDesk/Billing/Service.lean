import BetterDesk.Db.Store

/-! # The billing gate (billing/service.go, billing/resolver.go) -/

namespace BetterDesk.Billing
open Db

inductive TargetType
  | device
  | folder
  | deviceGroup
  | org
  deriving DecidableEq

structure Contract where
  id : String
  targetType : TargetType
  targetKey : String
  status : String
  currency : String
  deriving DecidableEq

inductive Query
  | activeContract (targetType : TargetType) (targetKey : String)
  | deviceGroups (id : PeerID)
  | deviceOrg (id : PeerID)

structure PendingRelay where
  orgID : OrgID
  deviceID : PeerID
  operatorID : PeerID
  contractID : String
  currency : String
  createdAt : ℕ

/-- `contracts` has the latest change first. -/
structure Service where
  contracts : List Contract
  deviceGroups : Option (PeerID → List String)
  deviceOrg : PeerID → OrgID
  fails : Query → Bool
  clockSynced : Option Bool
  pending : String → Option PendingRelay

namespace Service
variable (b : Service)

def ask {α : Type} (q : Query) (value : α) : Answer α := if b.fails q then .error () else .ok value

def getActiveBillingContract (targetType : TargetType) (targetKey : String) :
    Answer (Option Contract) :=
  b.ask (.activeContract targetType targetKey) (b.contracts.find? fun c =>
    c.targetType=targetType&&c.targetKey=targetKey&&c.status="active")

def groupContract : List String → Answer (Option Contract)
  | [] => .ok none
  | guid::rest =>
    if guid="" then groupContract rest
    else match b.getActiveBillingContract .deviceGroup guid with
      | .error e => .error e
      | .ok (some c) => .ok (some c)
      | .ok none => groupContract rest

def resolveContractForDevice (deviceID : PeerID) : Answer (Option Contract) :=
  if deviceID="" then .ok none
  else do
    match ← b.getActiveBillingContract .device deviceID with
    | some c => pure (some c)
    | none =>
      let groups := match b.deviceGroups with
        | none => []
        | some list => if b.fails (.deviceGroups deviceID) then [] else list deviceID
      match ← b.groupContract groups with
      | some c => pure (some c)
      | none =>
        let orgID ← b.ask (.deviceOrg deviceID) (b.deviceOrg deviceID)
        if orgID="" then pure none
        else b.getActiveBillingContract .org orgID

def resolveContract (deviceID : PeerID) : Answer (Option Contract × OrgID) := do
  let contract ← b.resolveContractForDevice deviceID
  let orgID ← b.ask (.deviceOrg deviceID) (b.deviceOrg deviceID)
  pure (contract,orgID)

structure ConnectionCheckResult where
  allowed : Bool
  reason : String
  orgID : OrgID
  hasBilling : Bool
  contractID : String
  currency : String
  deriving DecidableEq

def checkConnection (deviceID : PeerID) : ConnectionCheckResult :=
  match b.resolveContract deviceID with
  | .error _ => ⟨true,"","",false,"",""⟩
  | .ok (none,orgID) => ⟨true,"",orgID,false,"",""⟩
  | .ok (some c,orgID) =>
    if b.clockSynced=some false then ⟨false,"clock_unsynced",orgID,true,c.id,c.currency⟩
    else if c.status="suspended" then ⟨false,"billing_suspended",orgID,true,c.id,c.currency⟩
    else ⟨true,"",orgID,true,c.id,c.currency⟩

/-- `false` when the connection is not allowed. -/
def prepareRelay (now : ℕ) (relayUUID : String) (deviceID operatorID : PeerID) : Bool × Service :=
  if relayUUID="" then (true,b)
  else
    let check:=b.checkConnection deviceID
    if check.allowed=false then (false,b)
    else if check.hasBilling=false then (true,b)
    else
      let entry : PendingRelay :=
        ⟨check.orgID,deviceID,operatorID,check.contractID,check.currency,now⟩
      (true,{b with pending := Function.update b.pending relayUUID (some entry)})

end Service

end BetterDesk.Billing
