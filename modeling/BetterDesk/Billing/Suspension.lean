import BetterDesk.Billing.Service
import BetterDesk.Lib.Exec

/-! # Suspended contracts (billing/service.go, billing/resolver.go, db/sqlite_billing.go) -/

namespace BetterDesk.Billing.Service
open Db

section
variable (b : Service) (folders : List String) (deviceID : PeerID)

/-- What a contract that applies to the device may be for, the most specific target first. -/
def targets : List (TargetType × String) :=
  (.device,deviceID)::folders.map (fun key => (.folder,key)) ++
    (((b.deviceGroups.map fun list => list deviceID).getD []).filter (· ≠ "")).map (fun guid => (.deviceGroup,guid)) ++
    if b.deviceOrg deviceID="" then [] else [(.org,b.deviceOrg deviceID)]

def contractFor (target : TargetType × String) : Option Contract :=
  b.contracts.find? fun c => c.targetType=target.1&&c.targetKey=target.2

def mostSpecific : Option Contract := (b.targets folders deviceID).findSome? b.contractFor

/-- The contract that `CheckConnection` goes by. -/
def usedContract : Option Contract :=
  match b.resolveContract deviceID with
  | .error _ => none
  | .ok (c,_) => c

structure Refuses (c : Contract) : Prop where
  refused : (b.checkConnection deviceID).allowed=false
  own : ∀ c', b.usedContract deviceID=some c' → c'=c

def SuspensionGates : Prop :=
  ∀ c, b.mostSpecific folders deviceID=some c → c.status="suspended" → b.Refuses deviceID c

end

variable {b : Service} {deviceID : PeerID} {c : Contract}

theorem getActiveBillingContract_active {targetType : TargetType} {targetKey : String}
    (h : b.getActiveBillingContract targetType targetKey=.ok (some c)) : c.status="active" := by
  unfold getActiveBillingContract ask at h
  split at h
  · cases h
  · have hc:=List.find?_some (Except.ok.inj h)
    rw [Bool.and_eq_true,decide_eq_true_eq] at hc
    exact hc.2

theorem groupContract_active {guids : List String} (h : b.groupContract guids=.ok (some c)) : c.status="active" := by
  induction guids with
  | nil => cases h
  | cons guid rest ih =>
    unfold groupContract at h
    split at h
    · exact ih h
    · cases hg : b.getActiveBillingContract .deviceGroup guid with
      | error e =>
        rw [hg] at h
        cases h
      | ok found =>
        rw [hg] at h
        cases found with
        | none => exact ih h
        | some c' =>
          cases h
          exact getActiveBillingContract_active hg

theorem resolveContractForDevice_active (h : b.resolveContractForDevice deviceID=.ok (some c)) :
    c.status="active" := by
  unfold resolveContractForDevice at h
  split at h
  · cases h
  · obtain ⟨device,hdevice,h⟩:=Exec.bind_ok h
    cases device with
    | some c' =>
      cases h
      exact getActiveBillingContract_active hdevice
    | none =>
      obtain ⟨group,hgroup,h⟩:=Exec.bind_ok h
      cases group with
      | some c' =>
        cases h
        exact groupContract_active hgroup
      | none =>
        obtain ⟨orgID,_,h⟩:=Exec.bind_ok h
        split at h
        · cases h
        · exact getActiveBillingContract_active h

theorem usedContract_active (h : b.usedContract deviceID=some c) : c.status="active" := by
  unfold usedContract at h
  cases hr : b.resolveContract deviceID with
  | error e =>
    rw [hr] at h
    cases h
  | ok r =>
    rw [hr] at h
    obtain ⟨contract,hcontract,hrest⟩:=Exec.bind_ok hr
    obtain ⟨orgID,_,hpair⟩:=Exec.bind_ok hrest
    cases hpair
    cases h
    exact resolveContractForDevice_active hcontract

theorem usedContract_of_refused (h : (b.checkConnection deviceID).allowed=false) :
    ∃ c, b.usedContract deviceID=some c := by
  unfold checkConnection at h
  unfold usedContract
  cases hr : b.resolveContract deviceID with
  | error e =>
    rw [hr] at h
    cases h
  | ok r =>
    rw [hr] at h
    obtain ⟨contract,orgID⟩:=r
    cases contract with
    | none => cases h
    | some c => exact ⟨c,rfl⟩

theorem not_refuses (hs : c.status="suspended") : ¬ b.Refuses deviceID c := by
  intro h
  obtain ⟨c',hc'⟩:=usedContract_of_refused h.refused
  have hactive:=usedContract_active hc'
  rw [h.own c' hc',hs] at hactive
  exact absurd hactive (by decide)

/-- Suspension has no effect: whichever folders are counted as a level of their own, a
suspended contract never refuses. -/
theorem suspension_gates_iff (b : Service) (folders : List String) (deviceID : PeerID) :
    b.SuspensionGates folders deviceID ↔
      ∀ c, b.mostSpecific folders deviceID=some c → c.status≠"suspended" := by
  constructor
  · intro h c hc hs
    exact not_refuses hs (h c hc hs)
  · intro h c hc hs
    exact absurd hs (h c hc)

def suspendedDevice : Service where
  contracts := [⟨"c-device",.device,"DEV1","suspended","PLN"⟩,⟨"c-org",.org,"org-1","active","PLN"⟩]
  deviceGroups := none
  deviceOrg _ := "org-1"
  fails _ := false
  clockSynced := some true
  pending _ := none

theorem suspended_device_uses_org : ¬ suspendedDevice.SuspensionGates [] "DEV1" ∧
    suspendedDevice.checkConnection "DEV1" = ⟨true,"","org-1",true,"c-org","PLN"⟩ ∧
    ({suspendedDevice with contracts := suspendedDevice.contracts.take 1} : Service).checkConnection "DEV1" =
      ⟨true,"","org-1",false,"",""⟩ := by
  refine ⟨fun h => ?_,by decide,by decide⟩
  have hgated:=h ⟨"c-device",.device,"DEV1","suspended","PLN"⟩ (by decide) rfl
  exact not_refuses rfl hgated

end BetterDesk.Billing.Service
