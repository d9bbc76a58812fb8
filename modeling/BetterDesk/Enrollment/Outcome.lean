import BetterDesk.Enrollment.Decisions

/-! # One outcome per device -/

namespace BetterDesk.Enrollment
open Db Text Programs Exec Option Function Bool Monitor

def touches : Op → Option PeerID
  | .upsertPeer id _ _ => some id
  | .deletePeer id => some id
  | .hardDeletePeer id => some id
  | .banPeer id _ => some id
  | .unbanPeer id => some id
  | .setConfig (.rejectedDevice id) _ => some id
  | .setConfig (.enrollmentDecision id) _ => some id
  | .deleteConfig (.rejectedDevice id) => some id
  | .deleteConfig (.enrollmentDecision id) => some id
  | _ => none

def upsertRow (row : Option Peer) (uuid : Bytes) (origin : Origin) : Peer :=
  match row with
  | none => ⟨uuid,[],false,"",false,false,origin⟩
  | some p => {p with
    uuid := if uuid=[] then p.uuid else uuid
    disabled := false}

namespace Rec

def apply (ρ : Rec) : Op → Rec
  | .upsertPeer _ uuid origin => {ρ with row := some (upsertRow ρ.row uuid origin)}
  | .deletePeer _ => {ρ with row := ρ.row.map fun p => {p with softDeleted := true}}
  | .hardDeletePeer _ => {ρ with row := none}
  | .banPeer _ reason => { ρ with row := ρ.row.map fun p => {p with
      banned := true
      banReason := reason}}
  | .unbanPeer _ => { ρ with row := ρ.row.map fun p => {p with
      banned := false
      banReason := ""}}
  | .setConfig (.rejectedDevice _) marker => {ρ with marker := some marker}
  | .setConfig (.enrollmentDecision _) d => {ρ with decision := some d}
  | .deleteConfig (.rejectedDevice _) => {ρ with marker := none}
  | .deleteConfig (.enrollmentDecision _) => {ρ with decision := none}
  | _ => ρ

end Rec

variable {s : Store} {id : PeerID} {fails : Bool} {op : Op}

theorem Store.view_setPeer_ne {d : PeerID} {row : Option Peer} (h : d≠id) : (s.setPeer d row).view id=s.view id := by
  simp only [view,setPeer,update_of_ne (Ne.symm h)]

theorem Store.view_put_ne {key : ConfigKey} {value : Option key.Value}
    (hr : key ≠ .rejectedDevice id) (hd : key ≠ .enrollmentDecision id) : (s.put key value).view id=s.view id := by
  simp only [view,put,update_of_ne (Ne.symm hr),update_of_ne (Ne.symm hd)]

theorem view_run_other (h : touches op≠some id) : (run s op fails).2.view id=s.view id := by
  cases fails with
  | true =>
    cases op with
    | markUsed nonce now =>
      simp only [run,failure,perform,if_true]
      split <;> rfl
    | _ => rfl
  | false =>
    cases op with
    | markUsed | createDeviceToken =>
      simp only [run,perform,false_eq_true,if_false]
      split <;> rfl
    | upsertPeer | deletePeer | banPeer | unbanPeer => exact Store.view_setPeer_ne fun e => h (congrArg some e)
    | hardDeletePeer d =>
      exact (Store.view_put_ne (by simp) (by simp)).trans
        (Store.view_setPeer_ne fun e => h (congrArg some e))
    | setConfig key | deleteConfig key =>
      cases key with
      | rejectedDevice d =>
        exact Store.view_put_ne (fun e => h (by cases e; rfl)) (by simp)
      | enrollmentDecision d =>
        exact Store.view_put_ne (by simp) (fun e => h (by cases e; rfl))
      | _ => exact Store.view_put_ne (by simp) (by simp)
    | _ => rfl

theorem Store.view_setPeer {row : Option Peer} : (s.setPeer id row).view id={s.view id with row := row} := by
  simp [view,setPeer]

theorem view_run (h : touches op=some id) :
    (run s op fails).2.view id = if fails then s.view id else (s.view id).apply op := by
  cases fails with
  | true =>
    cases op with
    | markUsed nonce now => cases h
    | _ => rfl
  | false =>
    cases op with
    | upsertPeer d uuid origin =>
      cases h
      refine Store.view_setPeer.trans ?_
      unfold Rec.apply upsertRow Store.view
      cases s.peers id <;> rfl
    | deletePeer | banPeer | unbanPeer =>
      cases h
      exact Store.view_setPeer
    | hardDeletePeer d =>
      cases h
      exact (Store.view_put_ne (by simp) (by simp)).trans Store.view_setPeer
    | setConfig key | deleteConfig key =>
      cases key with
      | rejectedDevice | enrollmentDecision =>
        cases h
        simp [run,perform,Store.view,Store.put,Rec.apply]
      | _ => cases h
    | _ => cases h

theorem Rec.apply_untouched {ρ : Rec} (h : touches op=none) : ρ.apply op=ρ := by
  cases op with
  | upsertPeer | deletePeer | hardDeletePeer | banPeer | unbanPeer => cases h
  | setConfig key value => cases key <;> first | rfl | cases h
  | deleteConfig key => cases key <;> first | rfl | cases h
  | _ => rfl

theorem view_run_own (h : touches op=none ∨ touches op=some id) :
    (run s op fails).2.view id = if fails then s.view id else (s.view id).apply op := by
  rcases h with h | h
  · rw [view_run_other (by rw [h]; nofun),Rec.apply_untouched h,ite_self]
  · exact view_run h

def Store.Own (s : Store) : Prop :=
  ∀ id entry, s.config (.pendingDevice id)=some entry → entry.deviceID="" ∨ entry.deviceID=id

def ownEntry : Op → Prop
  | .setConfig (.pendingDevice id) entry => entry.deviceID="" ∨ entry.deviceID=id
  | _ => True

theorem Store.Own.put {key : ConfigKey} {value : Option key.Value} (h : s.Own)
    (hkey : ∀ id, key ≠ .pendingDevice id) : (s.put key value).Own := by
  intro id entry he
  simp only [Store.put,update_of_ne (Ne.symm (hkey id))] at he
  exact h id entry he

theorem Store.Own.run (h : s.Own) (hop : ownEntry op) : (run s op fails).2.Own := by
  cases fails with
  | true =>
    cases op with
    | markUsed nonce now =>
      simp only [Enrollment.run,failure,perform,if_true]
      split <;> exact h
    | _ => exact h
  | false =>
    cases op with
    | markUsed | createDeviceToken =>
      simp only [Enrollment.run,perform,false_eq_true,if_false]
      split <;> exact h
    | hardDeletePeer d => exact h.put (s := s.setPeer d none) (by simp)
    | setConfig key value =>
      cases key with
      | pendingDevice d =>
        intro id entry he
        by_cases hid : id=d
        · subst hid
          simp only [Enrollment.run,perform,Store.put,false_eq_true,if_false,
            update_self,some.injEq] at he
          exact he ▸ hop
        · simp only [Enrollment.run,perform,Store.put,false_eq_true,if_false] at he
          rw [update_of_ne (by simpa using hid)] at he
          exact h id entry he
      | _ => exact h.put (by simp)
    | deleteConfig key =>
      cases key with
      | pendingDevice d =>
        intro id entry he
        by_cases hid : id=d
        · subst hid
          simp only [Enrollment.run,perform,Store.put,false_eq_true,if_false,update_self] at he
          cases he
        · simp only [Enrollment.run,perform,Store.put,false_eq_true,if_false] at he
          rw [update_of_ne (by simpa using hid)] at he
          exact h id entry he
      | _ => exact h.put (by simp)
    | _ => exact h

/-- The rows that clearing or unbanning would remove were created by a
rejection, and a rejection on record has its marker. -/
structure Prov (ρ : Rec) : Prop where
  reason : ∀ p, ρ.row=some p → p.banReason=enrollmentRejectBanReason → p.origin=.rejection
  marked : ρ.marker.any (·.banned)=true → ∀ p, ρ.row=some p → p.origin=.rejection
  recorded : ρ.decision.any (fun d => d.status=.rejected&&d.banned)=true →
    ∀ p, ρ.row=some p → p.origin=.rejection
  decided : ρ.decision.any (fun d => d.status=.rejected)=true → ρ.marker≠none

theorem Prov.audit {ρ : Rec} (live : Option Peer) (h : Prov ρ) (hlive : ∀ p, live=some p → ρ.row=some p)
    (ha : enrollmentRejectAuditPeer live ρ.marker ρ.decision=true) : ∀ p, ρ.row=some p → p.origin=.rejection := by
  simp only [enrollmentRejectAuditPeer,or_eq_true] at ha
  rcases ha with (ha | ha) | ha
  · obtain ⟨p,hp,hreason⟩:=(any_eq_true _ _).mp ha
    intro q hq
    rw [hlive p hp] at hq
    cases hq
    exact h.reason p (hlive p hp) (of_decide_eq_true hreason)
  · exact h.recorded ha
  · exact h.marked ha

def purges : OperatorAction → Bool
  | .clearRejection _ => true
  | .unban _ => true
  | _ => false

inductive Actor
  | device (failed : Bool)
  | operator (a : OperatorAction) (prior : Option Decision) (ρ : Rec)

/-- An operator's request keeps to its device, and removes with a rejection only
a row created by one. -/
def OperatorRule (a : OperatorAction) (ρ : Rec) (op : Op) : Prop :=
  (touches op=none ∨ touches op=some a.device) ∧ (∀ id e, op ≠ .setConfig (.pendingDevice id) e) ∧
    ∀ id, op=.hardDeletePeer id → purges a=true → ∀ p, ρ.row=some p → p.origin=.rejection

def OperatorNext (a : OperatorAction) (ρ : Rec) (op : Op) (r : Res op) (ρ' : Rec) : Prop :=
  ∃ s fails, Store.Own s ∧ s.view a.device=ρ ∧ (critical op=true → fails=false) ∧
    (∀ id v, op=.setConfig (.rejectedDevice id) v → rejectable a ρ=true) ∧
    r=(run s op fails).1 ∧ ρ' = if fails then ρ else ρ.apply op

def DeviceRule (op : Op) : Prop :=
  (touches op=none ∨ ∃ id uuid, op=.upsertPeer id uuid .registration) ∧ ownEntry op

def Rowless : (op : Op) → Res op → Prop
  | .upsertPeer _ _ _, _ => False
  | .getPeer _, r => Answer.row r=none
  | _, _ => True

def DeviceNext (failed : Bool) (op : Op) (r : Res op) (failed' : Bool) : Prop :=
  ∃ s fails, Store.Own s ∧ r=(run s op fails).1 ∧ failed'=(failed||lookupFailed ⟨s,op,r⟩) ∧
    (failed=true → Rowless op r)

def decisionMonitor : Monitor Op Res Actor where
  allowed
    | .device _, op => DeviceRule op
    | .operator a _ ρ, op => OperatorRule a ρ op
  next
    | .device failed, op, r, g' => ∃ failed', DeviceNext failed op r failed' ∧ g'=.device failed'
    | .operator a prior ρ, op, r, g' => ∃ ρ', OperatorNext a ρ op r ρ' ∧ g'=.operator a prior ρ'

section Operators
variable {a : OperatorAction} {prior : Option Decision} {ρ : Rec}

variable {id : PeerID} {Q : Unit → Actor → Prop} {reason : String} {op : Op}

theorem wp_operator {Q : Res op → Actor → Prop} (hrule : OperatorRule a ρ op)
    (hQ : ∀ s fails, Store.Own s → s.view a.device=ρ → (critical op=true → fails=false) →
      (∀ id v, op=.setConfig (.rejectedDevice id) v → rejectable a ρ=true) →
      Q (run s op fails).1 (.operator a prior (if fails then ρ else ρ.apply op))) :
    decisionMonitor.wp Q (ask op) (.operator a prior ρ) := by
  refine wp_perform.mpr ⟨hrule,?_⟩
  rintro r g' ⟨ρ',⟨s,fails,hown,hview,hcrit,hrej,rfl,rfl⟩,rfl⟩
  exact hQ s fails hown hview hcrit hrej

theorem wp_operator_aside {Q : Res op → Actor → Prop} (htouch : touches op=none)
    (hpending : ∀ id e, op ≠ .setConfig (.pendingDevice id) e)
    (hQ : ∀ r, Q r (.operator a prior ρ)) : decisionMonitor.wp Q (ask op) (.operator a prior ρ) := by
  have hdelete : ∀ id, op=.hardDeletePeer id → purges a=true →
      ∀ p, ρ.row=some p → p.origin=.rejection := by
    rintro id rfl
    cases htouch
  refine wp_operator ⟨.inl htouch,hpending,hdelete⟩ fun s fails _ _ _ _ => ?_
  rw [Rec.apply_untouched htouch,ite_self]
  exact hQ _

theorem wp_operator_critical {Q : Res op → Actor → Prop} (hrule : OperatorRule a ρ op)
    (hcrit : critical op=true) (hQ : ∀ s, s.view a.device=ρ →
      (∀ id v, op=.setConfig (.rejectedDevice id) v → rejectable a ρ=true) →
      Q (run s op false).1 (.operator a prior (ρ.apply op))) :
    decisionMonitor.wp Q (ask op) (.operator a prior ρ) := by
  refine wp_operator hrule fun s fails _ hview hfails hrej => ?_
  rw [hfails hcrit]
  exact hQ s hview hrej

def Rec.cleared (ρ : Rec) : Rec :=
  { ρ with
    marker := none
    decision := ρ.decision.filter fun d => d.status ≠ .rejected}

theorem wp_clearEnrollmentRejectionState (hid : id=a.device) (hQ : Q () (.operator a prior ρ.cleared)) :
    decisionMonitor.wp Q (clearEnrollmentRejectionState id) (.operator a prior ρ) := by
  subst hid
  refine wp_bind.mpr (wp_operator_critical ⟨.inr rfl,by simp,by simp⟩ rfl fun s hs _ => ?_)
  refine wp_bind.mpr (wp_operator_critical ⟨.inl rfl,by simp,by simp⟩ rfl fun s hs _ => ?_)
  have hrow : Answer.row ((run s (.getConfig (.enrollmentDecision a.device)) false).1)=ρ.decision :=
    congrArg Rec.decision hs
  dsimp only
  split
  · rename_i hrej
    rw [hrow] at hrej
    refine wp_bind.mpr (wp_operator_critical ⟨.inr rfl,by simp,by simp⟩ rfl fun _ _ _ => ?_)
    have hcleared : ρ.cleared={ρ with
        marker := none
        decision := none} := by
      obtain ⟨d,hd,hstatus⟩:=(any_eq_true _ _).mp hrej
      simp only [Rec.cleared,hd,filter_some,of_decide_eq_true hstatus]
      simp
    rw [hcleared] at hQ
    exact hQ
  · rename_i hrej
    rw [hrow] at hrej
    have hcleared : ρ.cleared={ρ with marker := none} := by
      simp only [Rec.cleared]
      cases hd : ρ.decision with
      | none => rfl
      | some d =>
        rw [hd] at hrej
        simp only [any_some,decide_eq_true_eq] at hrej
        simp [hrej]
    rw [hcleared] at hQ
    exact hQ

theorem wp_removeAudit {Q : Bool → Actor → Prop} (hid : id=a.device)
    (horigin : purges a=true → ∀ p, ρ.row=some p → p.origin=.rejection)
    (hQ : Q true (.operator a prior {ρ with row := none})) :
    decisionMonitor.wp Q (removeEnrollmentRejectAuditPeer id) (.operator a prior ρ) := by
  subst hid
  refine wp_bind.mpr (wp_operator_aside rfl (by simp) fun _ => ?_)
  refine wp_bind.mpr (wp_operator_aside rfl (by simp) fun _ => ?_)
  exact wp_bind.mpr (wp_operator_critical ⟨.inr rfl,by simp,fun _ _ => horigin⟩ rfl
    fun _ _ _ => hQ)

theorem wp_operator_storeKey {encoded : Bytes} (hQ : Q () (.operator a prior ρ)) :
    decisionMonitor.wp Q (storeBdMgmtPublicKey id encoded) (.operator a prior ρ) := by
  unfold storeBdMgmtPublicKey
  split
  · exact hQ
  · exact wp_bind.mpr (wp_operator_aside rfl (by simp) fun _ => hQ)

theorem wp_operator_createPeer {req : EnrollmentRequest} {reset : Bool} {origin : Origin}
    {Q : Bool → Actor → Prop} (hid : req.deviceID=a.device)
    (hno : Q false (.operator a prior ρ))
    (hyes : (reset=true → ∀ p, ρ.row=some p → p.softDeleted=false) →
      Q true (.operator a prior {ρ with row := some (upsertRow ρ.row req.uuid origin)})) :
    decisionMonitor.wp Q (createPeerFromEnrollment req reset origin) (.operator a prior ρ) := by
  have hcheck : ∀ {R : Bool → Actor → Prop}, R false (.operator a prior ρ) →
      ((reset=true → ∀ p, ρ.row=some p → p.softDeleted=false) → R true (.operator a prior ρ)) →
      decisionMonitor.wp R (checkSecureState req.deviceID reset) (.operator a prior ρ) := by
    intro R hno hyes
    unfold checkSecureState
    split
    · refine wp_bind.mpr (wp_operator ⟨.inl rfl,by simp,by simp⟩ fun s fails _ hs _ _ => ?_)
      rw [Rec.apply_untouched rfl,ite_self]
      cases fails with
      | true => exact hno
      | false =>
        have hres : (run s (.getPeerIDState req.deviceID) false).1 =
            (.ok (idState ρ.row) : Answer PeerIDState) := by
          rw [hid,← hs]
          rfl
        rw [hres]
        cases hstate : ρ.row with
        | none =>
          refine wp_bind.mpr (wp_operator_aside rfl (by simp) fun deleted => ?_)
          have hlive : reset=true → ∀ p, ρ.row=some p → p.softDeleted=false := fun _ p hp => by
            rw [hstate] at hp
            cases hp
          cases hd : succeeded deleted with
          | true => exact hyes hlive
          | false => exact hno
        | some p =>
          cases hp : p.softDeleted with
          | true =>
            simp only [idState,hp,if_true]
            exact hno
          | false =>
            simp only [idState,hp,false_eq_true,if_false]
            refine hyes fun _ q hq => ?_
            rw [hstate] at hq
            cases hq
            exact hp
    · rename_i hreset
      exact hyes fun h => absurd h hreset
  unfold createPeerFromEnrollment
  split
  · exact hno
  refine wp_bind.mpr (hcheck hno fun hlive => ?_)
  refine wp_bind.mpr (wp_operator ⟨.inr (congrArg some hid),by simp,by simp⟩
    fun s fails _ _ _ _ => ?_)
  cases fails with
  | true => exact hno
  | false =>
    have hyes:=hyes hlive
    have hkey : decisionMonitor.wp Q (do
        if req.publicKey≠[] then
          storeBdMgmtPublicKey req.deviceID req.publicKey
        pure true) (.operator a prior {ρ with row := some (upsertRow ρ.row req.uuid origin)}) := by
      dsimp only
      split
      · exact wp_bind.mpr (wp_operator_storeKey hyes)
      · exact hyes
    show decisionMonitor.wp Q (do
      let bundleID:=normalizeEnrollmentBundleID req.bundleID
      if bundleID≠[] then
        let _ ← ask (.setConfig (.deviceBundleID req.deviceID) bundleID)
      if req.publicKey≠[] then
        storeBdMgmtPublicKey req.deviceID req.publicKey
      pure true) _
    dsimp only
    split
    · exact wp_bind.mpr (wp_operator_aside rfl (by simp) fun _ => hkey)
    · exact hkey

theorem wp_storeEnrollmentDecision {d : EnrollmentDecision}
    (hid : id=a.device) (hQ : Q () (.operator a prior {ρ with decision := some d})) :
    decisionMonitor.wp Q (storeEnrollmentDecision id d) (.operator a prior ρ) := by
  subst hid
  exact wp_bind.mpr (wp_operator_critical ⟨.inr rfl,by simp,by simp⟩ rfl fun _ _ _ => hQ)

def Finished (reply : Reply) : Actor → Prop
  | .device failed => failed=true → reply.status≠"approved" ∧ reply.deviceToken=none
  | .operator a prior ρ =>
    Prov ρ ∧ Decided (if reply.code=200 then a.decide prior else prior) ρ=true

theorem upsertRow_keeps (row : Option Peer) (uuid : Bytes) (origin : Origin) :
    (row=none ∧ upsertRow row uuid origin=⟨uuid,[],false,"",false,false,origin⟩) ∨
      ∃ p, row=some p ∧ (upsertRow row uuid origin).banned=p.banned ∧
        (upsertRow row uuid origin).banReason=p.banReason ∧
        (upsertRow row uuid origin).softDeleted=p.softDeleted ∧
        (upsertRow row uuid origin).origin=p.origin := by
  cases row with
  | none => exact .inl ⟨rfl,rfl⟩
  | some p => exact .inr ⟨p,rfl,rfl,rfl,rfl,rfl⟩

theorem Decided.safe {d : Option Decision} {ρ : Rec} (h : Decided d ρ=true) : Decided none ρ=true := by
  unfold Decided at h ⊢
  rcases d with _ | d
  · exact h
  · cases d <;> simp only [and_eq_true,or_eq_true] at h ⊢
    · exact .inl h.1
    · exact .inr h.2
    · exact .inl h

theorem Prov.upsert {ρ : Rec} {uuid : Bytes} {origin : Origin} (h : Prov ρ) (hmarker : ρ.marker=none) :
    Prov {ρ with row := some (upsertRow ρ.row uuid origin)} := by
  have hrecorded : ρ.decision.any (fun d => d.status=.rejected)=false := by
    by_contra hd
    exact h.decided (eq_true_of_not_eq_false hd) hmarker
  refine ⟨?_,fun hm => ?_,fun hd => ?_,h.decided⟩
  · rintro p hp hreason
    cases hp
    rcases upsertRow_keeps ρ.row uuid origin with ⟨-,hfresh⟩ | ⟨q,hq,-,hr,-,ho⟩
    · rw [hfresh] at hreason
      have hempty : ("" : String)=enrollmentRejectBanReason := hreason
      exact absurd hempty (by decide)
    · rw [hr] at hreason
      rw [ho]
      exact h.reason q hq hreason
  · rw [hmarker] at hm
    cases hm
  · cases hdec : ρ.decision with
    | none =>
      rw [hdec] at hd
      cases hd
    | some d =>
      rw [hdec] at hd hrecorded
      simp only [any_some,and_eq_true] at hd hrecorded
      rw [hd.1] at hrecorded
      cases hrecorded

theorem Prov.approved {ρ : Rec} (uuid : Bytes) (h : Prov ρ) (hlive : ∀ p, ρ.row=some p → p.softDeleted=false) :
    Prov ⟨some (upsertRow ρ.row uuid .approval),none,some ⟨.approved,false⟩⟩ ∧
      Decided (some .approved) ⟨some (upsertRow ρ.row uuid .approval),none,some ⟨.approved,false⟩⟩ = true := by
  rcases upsertRow_keeps ρ.row uuid .approval with
    ⟨-,hfresh⟩ | ⟨q,hq,-,hr,hs,ho⟩
  · rw [hfresh]
    refine ⟨⟨?_,nofun,nofun,nofun⟩,rfl⟩
    rintro p hp hreason
    cases hp
    have hempty : ("" : String)=enrollmentRejectBanReason := hreason
    exact absurd hempty (by decide)
  · refine ⟨⟨?_,nofun,nofun,nofun⟩,?_⟩
    · rintro p hp hreason
      cases hp
      rw [hr] at hreason
      rw [ho]
      exact h.reason q hq hreason
    · simp [Decided,hs,hlive q hq]

theorem wp_handleApproveDevice {displayName syncMode : String}
    (ha : a=.approve id displayName syncMode) (hprov : Prov ρ) (hdec : Decided prior ρ=true) :
    decisionMonitor.wp Finished (handleApproveDevice id displayName syncMode) (.operator a prior ρ) := by
  subst ha
  unfold handleApproveDevice
  split
  · exact ⟨hprov,hdec⟩
  split
  · exact ⟨hprov,hdec⟩
  refine wp_bind.mpr (wp_operator ⟨.inl rfl,by simp,by simp⟩ fun s fails hown _ _ _ => ?_)
  rw [Rec.apply_untouched rfl,ite_self]
  split
  · exact ⟨hprov,hdec⟩
  rename_i found hfound
  have hentry:=hown id found (run_getConfig_row hfound)
  have hdevice : (found.identified id).enrollment.deviceID=id := by
    show (if found.deviceID="" then id else found.deviceID)=id
    split
    · rfl
    · rename_i hne
      exact hentry.resolve_left hne
  refine wp_bind.mpr (wp_operator_createPeer hdevice ⟨hprov,hdec⟩ fun hlive => ?_)
  have hrest : ∀ {ρ' : Rec}, ρ'.row=some (upsertRow ρ.row (found.identified id).enrollment.uuid .approval) →
      decisionMonitor.wp Finished (do
        let _ ← ask (.deleteConfig (.pendingDevice id))
        let _ ← ask (.deleteConfig (.rejectedDevice id))
        storeEnrollmentDecision id ⟨.approved,false⟩
        pure okReply) (.operator (.approve id displayName syncMode) prior ρ') := by
    intro ρ' hrow
    refine wp_bind.mpr (wp_operator_aside rfl (by simp) fun _ => ?_)
    refine wp_bind.mpr (wp_operator_critical ⟨.inr rfl,by simp,by simp⟩ rfl fun _ _ _ => ?_)
    refine wp_bind.mpr (wp_storeEnrollmentDecision rfl ?_)
    have happroved:=hprov.approved (found.identified id).enrollment.uuid (hlive rfl)
    rw [← hrow] at happroved
    exact happroved
  refine wp_bind.mpr (wp_operator_aside rfl (by simp) fun _ => ?_)
  dsimp only
  split
  · exact wp_bind.mpr (wp_operator_aside rfl (by simp) fun _ => hrest rfl)
  · exact hrest rfl

theorem Prov.rejected {ρ : Rec} (h : Prov ρ) (hbanned : ρ.rowBanned=true) :
    Prov {ρ with
      marker := some ⟨false⟩
      decision := some ⟨.rejected,false⟩} ∧
      Decided (some .rejected) {ρ with
        marker := some ⟨false⟩
        decision := some ⟨.rejected,false⟩}=true := ⟨⟨h.reason,nofun,nofun,nofun⟩,hbanned⟩

theorem wp_handleRejectDevice {ban : Bool} (ha : a=.reject id ban) (hprov : Prov ρ) (hdec : Decided prior ρ=true) :
    decisionMonitor.wp Finished (handleRejectDevice id ban) (.operator a prior ρ) := by
  subst ha
  unfold handleRejectDevice
  split
  · exact ⟨hprov,hdec⟩
  refine wp_bind.mpr (wp_operator ⟨.inl rfl,by simp,by simp⟩ fun s fails hown _ _ _ => ?_)
  rw [Rec.apply_untouched rfl,ite_self]
  generalize hraw : (run s (.getConfig (.pendingDevice id)) fails).1=raw
  refine wp_bind.mpr (wp_operator_aside rfl (by simp) fun _ => ?_)
  refine wp_bind.mpr (wp_operator_critical ⟨.inr rfl,by simp,by simp⟩ rfl fun s' _ hrej => ?_)
  have hrej:=hrej id ⟨ban⟩ rfl
  cases ban with
  | false =>
    exact wp_bind.mpr (wp_storeEnrollmentDecision rfl (hprov.rejected hrej))
  | true =>
    have hrow : ρ.row=none := isNone_iff_eq_none.mp hrej
    have hdevice : (pendingOrEmpty id (Answer.row raw)).enrollment.deviceID=id := by
      show (if ((Answer.row raw).getD ⟨"",[],[],[],[],[],[],[],[],[]⟩).deviceID="" then id
        else ((Answer.row raw).getD ⟨"",[],[],[],[],[],[],[],[],[]⟩).deviceID)=id
      cases hfound : Answer.row raw with
      | none => rfl
      | some found =>
        rw [← hraw] at hfound
        have hentry:=hown id found (run_getConfig_row hfound)
        dsimp only [getD_some]
        split
        · rfl
        · rename_i hne
          exact hentry.resolve_left hne
    have hban : ∀ {row : Option Peer}, (∀ p, row=some p → p.origin=.rejection) →
        decisionMonitor.wp (fun _ g => decisionMonitor.wp Finished (do
            storeEnrollmentDecision id ⟨.rejected,true⟩
            pure okReply) g) (do
          let _ ← ask (.banPeer id enrollmentRejectBanReason)
          pure ()) (.operator (.reject id true) prior ⟨row,some ⟨true⟩,ρ.decision⟩) := by
      intro row horigin
      refine wp_bind.mpr (wp_operator_critical ⟨.inr rfl,by simp,by simp⟩ rfl fun _ _ _ => ?_)
      refine wp_bind.mpr (wp_storeEnrollmentDecision rfl ?_)
      have horigin' : ∀ p, (row.map fun p => {p with
          banned := true
          banReason := enrollmentRejectBanReason})=some p → p.origin=.rejection := by
        intro p hp
        obtain ⟨q,hq,rfl⟩:=map_eq_some_iff.mp hp
        exact horigin q hq
      refine ⟨⟨fun p hp _ => horigin' p hp,fun _ => horigin',fun _ => horigin',nofun⟩,?_⟩
      cases row <;> rfl
    refine wp_bind.mpr (wp_bind.mpr
      (wp_operator_critical ⟨.inl rfl,by simp,by simp⟩ rfl fun s'' hs'' _ => ?_))
    have hnone : Answer.row (run s'' (.getPeer id) false).1=none := by
      show (s''.peers id).filter _=none
      rw [show s''.peers id=none from (congrArg Rec.row hs'').trans hrow]
      rfl
    rw [if_pos hnone]
    rw [Rec.apply_untouched rfl]
    refine wp_bind.mpr (wp_operator_createPeer hdevice ?_ fun _ => ?_)
    · refine hban fun p hp => ?_
      rw [hrow] at hp
      cases hp
    · refine hban fun p hp => ?_
      cases hp
      show (upsertRow ρ.row _ .rejection).origin=_
      rw [hrow]
      rfl

theorem Rec.cleared_recorded (ρ : Rec) : ρ.cleared.decision.any (fun d => d.status=.rejected)=false := by
  simp only [Rec.cleared]
  cases ρ.decision with
  | none => rfl
  | some d =>
    rw [filter_some]
    split
    · rename_i h
      simpa using h
    · rfl

theorem Prov.cleared {ρ : Rec} {row : Option Peer} (hreason : ∀ p, row=some p →
    p.banReason=enrollmentRejectBanReason → p.origin=.rejection) : Prov {ρ.cleared with row := row} := by
  have hrecorded:=Rec.cleared_recorded ρ
  refine ⟨hreason,nofun,fun hd => ?_,fun hd => ?_⟩
  · cases hdec : ρ.cleared.decision with
    | none =>
      rw [hdec] at hd
      cases hd
    | some d =>
      rw [hdec] at hd hrecorded
      simp only [any_some,and_eq_true] at hd hrecorded
      rw [hd.1] at hrecorded
      cases hrecorded
  · rw [hrecorded] at hd
    cases hd

theorem livePeer_row {s : Store} {p : Peer} (h : s.livePeer id=some p) :
    (s.view id).row=some p := (filter_eq_some_iff.mp h).1

theorem wp_handleClearEnrollmentRejection (ha : a=.clearRejection id) (hprov : Prov ρ) (hdec : Decided prior ρ=true) :
    decisionMonitor.wp Finished (handleClearEnrollmentRejection id) (.operator a prior ρ) := by
  subst ha
  unfold handleClearEnrollmentRejection
  split
  · exact ⟨hprov,hdec⟩
  refine wp_bind.mpr (wp_operator_critical ⟨.inl rfl,by simp,by simp⟩ rfl fun s hs _ => ?_)
  refine wp_bind.mpr (wp_operator_critical ⟨.inl rfl,by simp,by simp⟩ rfl fun s' hs' _ => ?_)
  have hmarker : Answer.row (run s (.getConfig (.rejectedDevice id)) false).1=ρ.marker :=
    congrArg Rec.marker hs
  have hdecision : Answer.row (run s' (.getConfig (.enrollmentDecision id)) false).1=ρ.decision :=
    congrArg Rec.decision hs'
  rw [hmarker,hdecision]
  split
  · exact ⟨hprov,hdec⟩
  refine wp_bind.mpr (wp_operator_critical ⟨.inl rfl,by simp,by simp⟩ rfl fun s'' hs'' _ => ?_)
  refine wp_bind.mpr (wp_clearEnrollmentRejectionState rfl ?_)
  split
  · rename_i haudit
    have horigin : ∀ p, ρ.row=some p → p.origin=.rejection :=
      hprov.audit (s''.livePeer id)
        (fun p hp => (congrArg Rec.row hs'').symm.trans (livePeer_row hp)) haudit
    exact wp_bind.mpr (wp_removeAudit rfl (fun _ => horigin) ⟨Prov.cleared nofun,rfl⟩)
  · exact ⟨Prov.cleared hprov.reason,rfl⟩

theorem wp_handleUnbanPeer (ha : a=.unban id) (hprov : Prov ρ) (hdec : Decided prior ρ=true) :
    decisionMonitor.wp Finished (handleUnbanPeer id) (.operator a prior ρ) := by
  subst ha
  refine wp_bind.mpr (wp_operator_critical ⟨.inl rfl,by simp,by simp⟩ rfl fun s hs _ => ?_)
  split
  · rename_i hreason
    obtain ⟨p,hp,hreason⟩:=(any_eq_true _ _).mp hreason
    have hrow : ρ.row=some p := (congrArg Rec.row hs).symm.trans (livePeer_row hp)
    have horigin : ∀ q, ρ.row=some q → q.origin=.rejection := by
      intro q hq
      rw [hrow] at hq
      cases hq
      exact hprov.reason p hrow (of_decide_eq_true hreason)
    refine wp_bind.mpr (wp_clearEnrollmentRejectionState rfl ?_)
    exact wp_bind.mpr (wp_removeAudit rfl (fun _ => horigin) ⟨Prov.cleared nofun,rfl⟩)
  · refine wp_bind.mpr (wp_operator ⟨.inr rfl,by simp,by simp⟩ fun s' fails _ _ _ _ => ?_)
    cases fails with
    | true => exact ⟨hprov,hdec⟩
    | false =>
      refine wp_bind.mpr (wp_clearEnrollmentRejectionState rfl ⟨Prov.cleared ?_,rfl⟩)
      intro p hp hreason
      obtain ⟨q,-,rfl⟩:=map_eq_some_iff.mp hp
      have hempty : ("" : String)=enrollmentRejectBanReason := hreason
      exact absurd hempty (by decide)

theorem Prov.banned {ρ : Rec} (h : Prov ρ)
    (hreason : reason≠enrollmentRejectBanReason) : Prov (ρ.apply (.banPeer id reason)) := by
  refine ⟨fun p hp hr => ?_,fun hm p hp => ?_,fun hd p hp => ?_,h.decided⟩
  all_goals obtain ⟨q,hq,rfl⟩:=map_eq_some_iff.mp hp
  · exact absurd hr hreason
  · exact h.marked hm q hq
  · exact h.recorded hd q hq

theorem Decided.banned {d : Option Decision} {ρ : Rec}
    (h : Decided d ρ=true) : Decided d (ρ.apply (.banPeer id reason))=true := by
  have hrow : (ρ.apply (.banPeer id reason)).rowBanned=true := by
    unfold Rec.rowBanned Rec.apply
    cases ρ.row <;> rfl
  rcases d with _ | d
  · exact (or_eq_true _ _).mpr (.inr hrow)
  · cases d with
    | approved =>
      obtain ⟨hmarker,hlive⟩:=(and_eq_true _ _).mp h
      refine (and_eq_true _ _).mpr ⟨hmarker,?_⟩
      unfold Rec.apply
      rw [any_map]
      exact hlive
    | rejected => exact (and_eq_true _ _).mpr ⟨((and_eq_true _ _).mp h).1,hrow⟩
    | cleared => exact h

theorem Prov.removed {ρ : Rec} (id : PeerID) (h : Prov ρ) : Prov (ρ.apply (.deletePeer id)) := by
  refine ⟨fun p hp hr => ?_,fun hm p hp => ?_,fun hd p hp => ?_,h.decided⟩
  all_goals obtain ⟨q,hq,rfl⟩:=map_eq_some_iff.mp hp
  · exact h.reason q hq hr
  · exact h.marked hm q hq
  · exact h.recorded hd q hq

theorem Decided.removed {ρ : Rec} (id : PeerID) (h : Decided none ρ=true) :
    Decided none (ρ.apply (.deletePeer id))=true := by
  have hrow : (ρ.apply (.deletePeer id)).rowBanned=ρ.rowBanned := by
    unfold Rec.rowBanned Rec.apply
    cases ρ.row <;> rfl
  show (ρ.marker.isNone||(ρ.apply (.deletePeer id)).rowBanned)=true
  rw [hrow]
  exact h

theorem wp_handleDeletePeer {hard revoke : Bool} (ha : a=.delete id hard revoke)
    (hprov : Prov ρ) (hdec : Decided prior ρ=true) :
    decisionMonitor.wp Finished (handleDeletePeer id hard revoke) (.operator a prior ρ) := by
  subst ha
  have hsafe:=Decided.safe hdec
  cases hard with
  | true =>
    refine wp_bind.mpr (wp_operator_critical ⟨.inr rfl,by simp,nofun⟩ rfl fun s _ _ => ?_)
    have hend : Finished okReply (.operator (.delete id true revoke) prior {ρ with row := none}) :=
      ⟨⟨nofun,fun _ => nofun,fun _ => nofun,hprov.decided⟩,(or_eq_true _ _).mpr (.inr rfl)⟩
    cases revoke <;> exact hend
  | false =>
    refine wp_bind.mpr (wp_operator ⟨.inr rfl,by simp,by simp⟩ fun s fails _ _ _ _ => ?_)
    cases fails with
    | true => exact ⟨hprov,hdec⟩
    | false =>
      have hremoved:=hprov.removed id
      have hdecided:=Decided.removed id hsafe
      cases revoke with
      | false => exact ⟨hremoved,hdecided⟩
      | true =>
        refine wp_bind.mpr (wp_operator_critical ⟨.inr rfl,by simp,by simp⟩ rfl fun _ _ _ => ?_)
        exact ⟨hremoved.banned (by decide),Decided.banned hdecided⟩

theorem wp_handleBanPeer (ha : a=.ban id reason)
    (hreason : reason≠enrollmentRejectBanReason) (hprov : Prov ρ) (hdec : Decided prior ρ=true) :
    decisionMonitor.wp Finished (handleBanPeer id reason) (.operator a prior ρ) := by
  subst ha
  refine wp_bind.mpr (wp_operator_critical ⟨.inr rfl,by simp,by simp⟩ rfl fun _ _ _ => ?_)
  exact ⟨hprov.banned hreason,Decided.banned hdec⟩

def plain : OperatorAction → Bool
  | .ban _ reason => reason≠enrollmentRejectBanReason
  | _ => true

theorem wp_handleOperator (hplain : plain a=true) (hprov : Prov ρ) (hdec : Decided prior ρ=true) :
    decisionMonitor.wp Finished (handleOperator a) (.operator a prior ρ) := by
  cases ha : a with
  | approve id displayName syncMode => exact wp_handleApproveDevice rfl hprov hdec
  | reject id ban => exact wp_handleRejectDevice rfl hprov hdec
  | clearRejection id => exact wp_handleClearEnrollmentRejection rfl hprov hdec
  | unban id => exact wp_handleUnbanPeer rfl hprov hdec
  | delete id hard revoke => exact wp_handleDeletePeer rfl hprov hdec
  | ban id reason =>
    subst ha
    exact wp_handleBanPeer rfl (of_decide_eq_true hplain) hprov hdec

end Operators

end BetterDesk.Enrollment
