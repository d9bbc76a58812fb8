import BetterDesk.Billing.Metering

/-! # The segments of a session (billing/service.go, billing/period_service.go) -/

namespace BetterDesk.Billing
open Db Programs Exec Monitor List Nat

/-- Segments that follow one another from `start` to `stop`. -/
def Covers (start : ℕ) : List Segment → ℕ → Prop
  | [], stop => start=stop
  | seg::rest, stop => seg.start=start ∧ seg.start ≤ seg.stop ∧ Covers seg.stop rest stop

def timesCharged (segs : List Segment) (i : ℕ) : ℕ :=
  (segs.filter fun seg => seg.start ≤ i ∧ i < seg.stop).length

theorem Covers.le {start stop : ℕ} {segs : List Segment} (h : Covers start segs stop) : start ≤ stop := by
  induction segs generalizing start with
  | nil => exact le_of_eq h
  | cons seg rest ih =>
    obtain ⟨rfl,hle,hrest⟩:=h
    exact hle.trans (ih hrest)

theorem Covers.append {start : ℕ} {segs : List Segment} {seg : Segment} (h : Covers start segs seg.start)
    (hle : seg.start ≤ seg.stop) : Covers start (segs++[seg]) seg.stop := by
  induction segs generalizing start with
  | nil => exact ⟨h.symm,hle,rfl⟩
  | cons first rest ih => exact ⟨h.1,h.2.1,ih h.2.2⟩

theorem Covers.timesCharged {start stop : ℕ} {segs : List Segment} (h : Covers start segs stop) (i : ℕ) :
    timesCharged segs i = if start ≤ i ∧ i < stop then 1 else 0 := by
  induction segs generalizing start with
  | nil =>
    obtain rfl : start=stop := h
    rw [if_neg (by omega)]
    rfl
  | cons seg rest ih =>
    obtain ⟨rfl,hle,hrest⟩:=h
    have hle':=hrest.le
    have hih:=ih hrest
    unfold Billing.timesCharged at hih ⊢
    rw [filter_cons]
    by_cases hin : seg.start ≤ i ∧ i < seg.stop
    · rw [if_neg (by omega)] at hih
      rw [if_pos (decide_eq_true hin),if_pos (by omega),length_cons,hih]
    · rw [if_neg (by simpa using hin),hih]
      by_cases hi : seg.stop ≤ i ∧ i < stop
      · rw [if_pos hi,if_pos (by omega)]
      · rw [if_neg hi,if_neg (by omega)]

def Meter.chargedTo (s : Meter) (id : ℕ) : List Segment := s.charges.filter fun seg => seg.session=id

def ActiveSession.held (a : ActiveSession) : Started := ⟨a.id,a.relayUUID,a.startedAt⟩

def Started.upTo (h : Started) (stop : ℕ) : Started := {h with startedAt := stop}

/-- `seen` is the latest reading of the clock. -/
inductive Stage
  | free (seen : ℕ)
  | starting (id seen : ℕ)
  | closing (relayUUID : String)
  | ending (h : Started) (seen : ℕ)
  | waiting
  | ticking (month seen : ℕ) (copies : List Started)
  | owing (month seen : ℕ) (copies : List Started) (id boundary : ℕ)

namespace Stage

def Works : Stage → Prop
  | free _ => True
  | ending _ _ => True
  | ticking _ _ _ => True
  | _ => False

def Reads : Stage → Stage → Prop
  | free n, g => ∃ n', n≤n' ∧ g=free n'
  | ending h n, g => ∃ n', n≤n' ∧ g=ending h n'
  | ticking m n copies, g => ∃ n', n≤n' ∧ g=ticking m n' copies
  | _, _ => False

def ReadsNow (now : ℕ) : Stage → Stage → Prop
  | free n, g => n≤now ∧ g=free now
  | ending h n, g => n≤now ∧ h.startedAt≤now ∧ g=ending h now
  | ticking m n copies, g => n≤now ∧ g=ticking m now copies
  | _, _ => False

end Stage

def Op.Plain : Op → Prop
  | .clockSynced => True
  | .resolveContract _ => True
  | .getBillingContract _ => True
  | .getBillingPackage _ => True
  | .updateBillingContract _ _ => True
  | .getBillingPeriodTotal _ _ => True
  | .upsertBillingPeriodTotal _ _ _ => True
  | .addBillingPeriodUsage _ _ _ _ _ _ => True
  | .putPending _ _ => True
  | .takePending _ => True
  | _ => False

def Crossed (cal : Calendar) (month : ℕ) (copies : List Started) (id : ℕ) (h : Started) : Prop :=
  h∈copies ∧ h.id=id ∧ cal.periodAt h.startedAt≠month

def moveOn (copies : List Started) (relayUUID : String) (boundary : ℕ) : List Started :=
  copies.map fun h => if h.relayUUID=relayUUID then h.upTo boundary else h

structure Follows (h : Started) (seen : ℕ) (sid : ℕ) (seg : Segment) : Prop where
  id : h.id=sid
  session : seg.session=sid
  start : seg.start=h.startedAt
  le : seg.start ≤ seg.stop
  stop : seg.stop ≤ seen

def OpenRow (r : Option BillingSession) : Prop := ∃ sess, r=some sess ∧ sess.endedAt=none

def Allowed (cal : Calendar) : Stage → Op → Prop
  | .closing relayUUID, .takeActive relayUUID' => relayUUID'=relayUUID
  | .waiting, .snapshotActive => True
  | .free _, .createBillingSession row => row.endedAt=none
  | .starting id seen, .putActive a => a.id=id ∧ a.startedAt ≤ seen
  | .ending h _, .getBillingSession id => h.id=id
  | .ending h seen, .updateBillingSession id row seg =>
    Follows h seen id seg ∧ (row.endedAt=none ∨ row.endedAt=some seg.stop)
  | .ending h _, .syncActive relayUUID _ _ => relayUUID=h.relayUUID
  | .ticking m _ copies, .getBillingSession id => ∃ h, Crossed cal m copies id h
  | .ticking m seen copies, .updateBillingSession id row seg =>
    (∃ h, Crossed cal m copies id h ∧ Follows h seen id seg) ∧ row.endedAt=none
  | .owing m _ copies id boundary, .syncActive relayUUID startedAt _ =>
    startedAt=boundary ∧ ∃ h, Crossed cal m copies id h ∧ h.relayUUID=relayUUID
  | .ticking _ _ _, .updateProgress _ _ => True
  | .ticking _ _ _, .sweepStalePending => True
  | g, .now => g.Works
  | g, op => op.Plain ∧ g.Works

def Next (cal : Calendar) : Stage → (op : Op) → Res op → Stage → Prop
  | .closing relayUUID, .takeActive _, r, g' =>
    match r with
    | none => g'=.free 0
    | some a => a.relayUUID=relayUUID ∧ g'=.ending a.held 0
  | .waiting, .snapshotActive, r, g' => (r.map ActiveSession.relayUUID).Nodup ∧ ∃ m, g'=.ticking m 0 (r.map ActiveSession.held)
  | .free seen, .createBillingSession _, r, g' => ∃ id, r=some id ∧ g'=.starting id seen
  | .starting _ seen, .putActive _, _, g' => g'=.free seen
  | .ending h seen, .getBillingSession _, r, g' => OpenRow r ∧ g'=.ending h seen
  | .ending h seen, .updateBillingSession _ row seg, _, g' =>
    g' = if row.endedAt=none then .ending (h.upTo seg.stop) seen else .free seen
  | .ending h seen, .syncActive _ _ _, _, g' => g'=.ending h seen
  | .ticking m seen copies, .getBillingSession _, r, g' => OpenRow r ∧ g'=.ticking m seen copies
  | .ticking m seen copies, .updateBillingSession id _ seg, _, g' => g'=.owing m seen copies id seg.stop
  | .owing m seen copies _ boundary, .syncActive relayUUID _ _, _, g' => g'=.ticking m seen (moveOn copies relayUUID boundary)
  | .ticking _ seen _, .sweepStalePending, _, g' => g'=.free seen
  | g, .now, r, g' => g.ReadsNow r g' ∧ ∀ m seen copies, g=.ticking m seen copies → cal.periodAt r=m
  | g, _, _, g' => g'=g

def sessionMonitor (cal : Calendar) : Monitor Op Res Stage := ⟨Allowed cal,Next cal⟩

section
variable {cal : Calendar} {α : Type} {g g' : Stage}

namespace Stage

theorem Reads.refl (hg : g.Works) : g.Reads g := by
  cases g <;> simp_all [Works,Reads]

theorem Reads.works (h : g.Reads g') : g'.Works := by
  cases g with
  | free | ending | ticking =>
    obtain ⟨n',-,rfl⟩:=h
    trivial
  | _ => exact h.elim

theorem Reads.trans {g'' : Stage} (h : g.Reads g') (h' : g'.Reads g'') : g.Reads g'' := by
  cases g with
  | free | ending | ticking =>
    obtain ⟨n',hle,rfl⟩:=h
    obtain ⟨n'',hle',rfl⟩:=h'
    exact ⟨n'',hle.trans hle',rfl⟩
  | _ => exact h.elim

theorem ReadsNow.reads {now : ℕ} (h : g.ReadsNow now g') : g.Reads g' := by
  cases g with
  | free | ticking => exact ⟨now,h.1,h.2⟩
  | ending x n => exact ⟨now,h.1,h.2.2⟩
  | _ => exact h.elim

end Stage

theorem allowed_plain {op : Op} (hop : op.Plain) (hg : g.Works) : Allowed cal g op := by
  cases g <;> cases op <;> first | exact hop.elim | exact hg.elim | exact ⟨hop,hg⟩

theorem next_plain {op : Op} {r : Res op} (hop : op.Plain) (hg : g.Works) (h : Next cal g op r g') : g'=g := by
  cases g <;> cases op <;> first | exact hop.elim | exact hg.elim | exact h

theorem wp_plain {op : Op} {Q : Res op → Stage → Prop} (hop : op.Plain) (hg : g.Works) (hQ : ∀ r, Q r g) :
    (sessionMonitor cal).wp Q (ask op) g := by
  refine wp_perform.mpr ⟨allowed_plain hop hg,fun r g' hnext => ?_⟩
  rw [next_plain hop hg hnext]
  exact hQ r

def Quiet (x : Prog α) : Prop := ∀ (cal : Calendar) (g : Stage), g.Works → (sessionMonitor cal).wp (fun _ g' => g.Reads g') x g

namespace Quiet
variable {β : Type}

theorem pure (a : α) : Quiet (pure a : Prog α) := fun _ _ hg => .refl hg

theorem plain {op : Op} (hop : op.Plain) : Quiet (ask op) := fun _ _ hg => wp_plain hop hg fun _ => .refl hg

theorem now : Quiet (ask .now) := by
  intro cal g hg
  refine wp_perform.mpr ⟨?_,fun r g' hnext => ?_⟩
  · cases g <;> exact hg
  · cases g <;> exact hnext.1.reads

theorem bind {x : Prog β} {f : β → Prog α} (hx : Quiet x) (hf : ∀ b, Quiet (f b)) : Quiet (x >>= f) := by
  intro cal g hg
  refine wp_bind.mpr (wp_mono (fun b g' hr => ?_) (hx cal g hg))
  exact wp_mono (fun a g'' hr' => hr.trans hr') (hf b cal g' hr.works)

theorem wp {x : Prog α} (h : Quiet x) {Q : α → Stage → Prop} (hg : g.Works) (hQ : ∀ a g', g.Reads g' → Q a g') :
    (sessionMonitor cal).wp Q x g := wp_mono hQ (h cal g hg)

end Quiet

variable (cfg : Config)

theorem quiet_ensureContractPeriod (contract : ContractRow) : Quiet (ensureContractPeriod cfg contract) := by
  refine .bind .now fun now => ?_
  dsimp only
  split
  · exact .pure ()
  · refine .bind (.plain trivial) fun pkg => .bind ?_ fun _ => .plain trivial
    unfold snapshotPriorMonth
    split
    · exact .pure ()
    · refine .bind (.plain trivial) fun t => ?_
      cases t with
      | none => exact .plain trivial
      | some t =>
        dsimp only
        split
        · exact .plain trivial
        · exact .pure ()

theorem quiet_applyUsageToPeriod (contractID packageID : String) (start includedUsed overageMin limitSnapshot : ℕ) :
    Quiet (applyUsageToPeriod cfg contractID packageID start includedUsed overageMin limitSnapshot) := .plain trivial

theorem quiet_roundMinForContract (contractID : String) : Quiet (roundMinForContract cfg contractID) := by
  refine .bind (.plain trivial) fun contract => ?_
  cases contract with
  | none => exact .pure _
  | some contract => exact .bind (.plain trivial) fun pkg => .pure _

theorem quiet_settleContract (a : ActiveSession) (seg : Segment) : Quiet (settleContract cfg a seg) := by
  refine .bind (.plain trivial) fun contract => ?_
  cases contract with
  | none => exact .pure _
  | some contract =>
    refine .bind (.plain trivial) fun pkg => .bind (.plain trivial) fun _ => ?_
    exact .bind (quiet_ensureContractPeriod cfg _) fun _ => .bind (.plain trivial) fun renewed => .pure _

theorem quiet_finalizeContract (a : ActiveSession) (seg : Segment) (overageMin : ℕ) :
    Quiet (finalizeContract cfg a seg overageMin) := by
  refine .bind (.plain trivial) fun contract => ?_
  cases contract with
  | none => exact .pure ()
  | some contract =>
    refine .bind (quiet_ensureContractPeriod cfg _) fun _ => .bind (.plain trivial) fun renewed => ?_
    cases renewed with
    | none => exact .pure ()
    | some renewed =>
      refine .bind (.plain trivial) fun _ => .bind (.plain trivial) fun pkg => ?_
      exact quiet_applyUsageToPeriod cfg _ _ _ _ _ _

theorem quiet_checkConnection (deviceID : PeerID) : Quiet (checkConnection cfg deviceID) := by
  refine .bind (.plain trivial) fun r => ?_
  obtain ⟨_ | ⟨c,row⟩,orgID⟩:=r
  · exact .pure _
  · refine .bind (quiet_ensureContractPeriod cfg _) fun _ => .bind (.plain trivial) fun r => ?_
    obtain ⟨_ | ⟨c,row⟩,orgID'⟩:=r
    · exact .pure _
    · refine .bind (.plain trivial) fun synced => ?_
      split
      · exact .pure _
      · split <;> exact .pure _

theorem quiet_prepareRelay (relayUUID : String) (deviceID operatorID : PeerID) :
    Quiet (prepareRelay cfg relayUUID deviceID operatorID) := by
  unfold prepareRelay
  split
  · exact .pure _
  · refine .bind (quiet_checkConnection cfg _) fun check => ?_
    split
    · exact .pure _
    · split
      · exact .pure _
      · refine .bind (.plain trivial) fun r => ?_
        obtain ⟨_ | ⟨c,row⟩,orgID⟩:=r
        · exact .pure _
        · exact .bind .now fun now => .bind (.plain trivial) fun _ => .pure _

variable {cfg} {a : ActiveSession} {seen month boundary now : ℕ} {copies : List Started}

@[simp] theorem held_synced (a : ActiveSession) (boundary remaining : ℕ) : (a.synced boundary remaining).held=a.held.upTo boundary :=
  rfl

theorem mem_moveOn {relayUUID : String} {h : Started} (hmem : h∈copies) (hne : h.relayUUID≠relayUUID) :
    h∈moveOn copies relayUUID boundary := by
  refine mem_map.mpr ⟨h,hmem,?_⟩
  rw [if_neg hne]

theorem mem_moveOn_self {h : Started} (hmem : h∈copies) : h.upTo boundary∈moveOn copies h.relayUUID boundary := by
  refine mem_map.mpr ⟨h,hmem,?_⟩
  rw [if_pos rfl]

theorem settleSegment_wp_ending (hle : a.startedAt≤boundary) (hseen : boundary ≤ seen) :
    (sessionMonitor cal).wp (fun a' g' => ∃ remaining seen', seen ≤ seen' ∧ a'=a.synced boundary remaining ∧
      g'=.ending (a.held.upTo boundary) seen') (settleSegment cfg a boundary) (.ending a.held seen) := by
  unfold settleSegment
  refine wp_bind.mpr ((quiet_roundMinForContract cfg _).wp trivial ?_)
  rintro roundMin _ ⟨n₁,hle₁,rfl⟩
  dsimp only
  refine wp_bind.mpr ((quiet_settleContract cfg _ _).wp trivial ?_)
  rintro ⟨packageID,limitSnap,remaining⟩ _ ⟨n₂,hle₂,rfl⟩
  refine wp_bind.mpr ((quiet_applyUsageToPeriod cfg _ _ _ _ _ _).wp trivial ?_)
  rintro _ _ ⟨n₃,hle₃,rfl⟩
  refine wp_bind.mpr (wp_perform.mpr ⟨rfl,?_⟩)
  rintro _ _ ⟨⟨sess,rfl,hopen⟩,rfl⟩
  have hfollows : Follows a.held n₃ a.id ⟨a.id,a.contractID,a.startedAt,boundary,
      min (roundUpMinutes (rawSeconds a.startedAt boundary) roundMin) a.remainingAtStart⟩ :=
    ⟨rfl,rfl,rfl,hle,by dsimp only; omega⟩
  refine wp_bind.mpr (wp_perform.mpr ⟨⟨hfollows,.inl hopen⟩,?_⟩)
  rintro _ _ rfl
  dsimp only
  rw [if_pos hopen]
  refine wp_bind.mpr (wp_perform.mpr ⟨rfl,?_⟩)
  rintro _ _ rfl
  exact ⟨remaining,n₃,by omega,rfl,rfl⟩

theorem settleSegment_wp_ticking (hcrossed : Crossed cal month copies a.id a.held) (hle : a.startedAt≤boundary)
    (hseen : boundary ≤ seen) :
    (sessionMonitor cal).wp (fun a' g' => ∃ remaining seen', seen ≤ seen' ∧ a'=a.synced boundary remaining ∧
      g'=.ticking month seen' (moveOn copies a.relayUUID boundary)) (settleSegment cfg a boundary)
      (.ticking month seen copies) := by
  unfold settleSegment
  refine wp_bind.mpr ((quiet_roundMinForContract cfg _).wp trivial ?_)
  rintro roundMin _ ⟨n₁,hle₁,rfl⟩
  dsimp only
  refine wp_bind.mpr ((quiet_settleContract cfg _ _).wp trivial ?_)
  rintro ⟨packageID,limitSnap,remaining⟩ _ ⟨n₂,hle₂,rfl⟩
  refine wp_bind.mpr ((quiet_applyUsageToPeriod cfg _ _ _ _ _ _).wp trivial ?_)
  rintro _ _ ⟨n₃,hle₃,rfl⟩
  refine wp_bind.mpr (wp_perform.mpr ⟨⟨a.held,hcrossed⟩,?_⟩)
  rintro _ _ ⟨⟨sess,rfl,hopen⟩,rfl⟩
  have hfollows : Follows a.held n₃ a.id ⟨a.id,a.contractID,a.startedAt,boundary,
      min (roundUpMinutes (rawSeconds a.startedAt boundary) roundMin) a.remainingAtStart⟩ :=
    ⟨rfl,rfl,rfl,hle,by dsimp only; omega⟩
  refine wp_bind.mpr (wp_perform.mpr ⟨⟨⟨a.held,hcrossed,hfollows⟩,hopen⟩,?_⟩)
  rintro _ _ rfl
  refine wp_bind.mpr (wp_perform.mpr ⟨⟨rfl,a.held,hcrossed,rfl⟩,?_⟩)
  rintro _ _ rfl
  exact ⟨remaining,n₃,by omega,rfl,rfl⟩

theorem settleMonths_wp_ending {fuel : ℕ} (hseen : now ≤ seen) :
    (sessionMonitor cfg.cal).wp (fun a' g' => ∃ seen', seen ≤ seen' ∧ g'=.ending a'.held seen')
      (settleMonths cfg now fuel a) (.ending a.held seen) := by
  induction fuel generalizing a seen with
  | zero => exact ⟨seen,le_refl _,rfl⟩
  | succ fuel ih =>
    unfold settleMonths
    split
    · exact ⟨seen,le_refl _,rfl⟩
    · rename_i boundary hsplit
      obtain ⟨hboundary,-,hlt⟩:=cfg.cal.split_some hsplit
      have hstart : a.startedAt≤boundary := hboundary ▸ (cfg.cal.lt_monthEnd a.startedAt).le
      refine wp_bind.mpr (wp_mono ?_ (settleSegment_wp_ending hstart (hlt.le.trans hseen)))
      rintro _ _ ⟨remaining,n,hn,rfl,rfl⟩
      rw [← held_synced a boundary remaining]
      refine wp_mono ?_ (ih (hseen.trans hn))
      rintro a' _ ⟨n',hn',rfl⟩
      exact ⟨n',hn.trans hn',rfl⟩

theorem settleMonths_wp_ticking {fuel : ℕ} (hmem : a.held∈copies) (hmonth : cfg.cal.periodAt now=month)
    (hseen : now ≤ seen) :
    (sessionMonitor cfg.cal).wp (fun _ g' => ∃ seen' copies', g'=.ticking month seen' copies' ∧
      ∀ h∈copies,h.relayUUID≠a.relayUUID → h∈copies') (settleMonths cfg now fuel a)
      (.ticking month seen copies) := by
  induction fuel generalizing a seen copies with
  | zero => exact ⟨seen,copies,rfl,fun h hh _ => hh⟩
  | succ fuel ih =>
    unfold settleMonths
    split
    · exact ⟨seen,copies,rfl,fun h hh _ => hh⟩
    · rename_i boundary hsplit
      obtain ⟨hboundary,hne,hlt⟩:=cfg.cal.split_some hsplit
      have hstart : a.startedAt≤boundary := hboundary ▸ (cfg.cal.lt_monthEnd a.startedAt).le
      have hcrossed : Crossed cfg.cal month copies a.id a.held := ⟨hmem,rfl,fun heq => hne (heq.trans hmonth.symm)⟩
      refine wp_bind.mpr (wp_mono ?_ (settleSegment_wp_ticking hcrossed hstart (hlt.le.trans hseen)))
      rintro _ _ ⟨remaining,n,hn,rfl,rfl⟩
      have hmoved : (a.synced boundary remaining).held∈moveOn copies a.relayUUID boundary := mem_moveOn_self hmem
      refine wp_mono ?_ (ih hmoved (hseen.trans hn))
      rintro _ _ ⟨n',copies',rfl,hrest⟩
      exact ⟨n',copies',rfl,fun h hh hne => hrest h (mem_moveOn hh hne) hne⟩

def Keeps (cal : Calendar) (x : Prog Unit) (g : Stage) : Prop :=
  (sessionMonitor cal).wp (fun _ g' => ∃ seen, g'=.free seen) x g

theorem Quiet.keeps {x : Prog Unit} (h : Quiet x) (seen : ℕ) : Keeps cal x (.free seen) := by
  refine h.wp trivial ?_
  rintro _ _ ⟨n,-,rfl⟩
  exact ⟨n,rfl⟩

theorem finalizeSession_keeps : Keeps cfg.cal (finalizeSession cfg a) (.ending a.held seen) := by
  unfold finalizeSession settleCrossingMonth
  refine wp_bind.mpr (wp_bind.mpr (wp_perform.mpr ⟨trivial,?_⟩))
  rintro now _ ⟨⟨-,-,rfl⟩,-⟩
  refine wp_mono ?_ (settleMonths_wp_ending (le_refl now))
  rintro b _ ⟨n,-,rfl⟩
  refine wp_bind.mpr (wp_perform.mpr ⟨trivial,?_⟩)
  rintro stop _ ⟨⟨-,hstart,rfl⟩,-⟩
  refine wp_bind.mpr ((quiet_roundMinForContract cfg _).wp trivial ?_)
  rintro roundMin _ ⟨n₁,hle₁,rfl⟩
  refine wp_bind.mpr (wp_perform.mpr ⟨rfl,?_⟩)
  rintro _ _ ⟨⟨sess,rfl,hopen⟩,rfl⟩
  have hfollows : Follows b.held n₁ b.id ⟨b.id,b.contractID,b.startedAt,stop,
      min (roundUpMinutes (rawSeconds b.startedAt stop) roundMin) b.remainingAtStart⟩ :=
    ⟨rfl,rfl,rfl,hstart,hle₁⟩
  refine wp_bind.mpr (wp_perform.mpr ⟨⟨hfollows,.inr rfl⟩,?_⟩)
  rintro _ _ rfl
  exact (quiet_finalizeContract cfg _ _ _).keeps n₁

def Request.ends (relayUUID : String) : Request → Bool
  | .endRelay u => u=relayUUID
  | _ => false

def Request.ticks : Request → Bool
  | .tick _ => true
  | _ => false

def Request.stage : Request → Stage
  | .endRelay relayUUID => if relayUUID="" then .free 0 else .closing relayUUID
  | .tick _ => .waiting
  | _ => .free 0

theorem endRelay_keeps (relayUUID : String) : Keeps cfg.cal (endRelay cfg relayUUID) (Request.endRelay relayUUID).stage := by
  show Keeps cfg.cal (endRelay cfg relayUUID) (if relayUUID="" then .free 0 else .closing relayUUID)
  unfold endRelay
  by_cases hempty : relayUUID=""
  · rw [if_pos hempty,if_pos hempty]
    exact ⟨0,rfl⟩
  · rw [if_neg hempty,if_neg hempty]
    refine wp_bind.mpr (wp_perform.mpr ⟨rfl,?_⟩)
    rintro (_ | a) g' hnext
    · exact ⟨0,hnext⟩
    · obtain ⟨-,rfl⟩:=hnext
      exact finalizeSession_keeps

theorem activateRelay_keeps (relayUUID : String) (seen : ℕ) : Keeps cfg.cal (activateRelay cfg relayUUID) (.free seen) := by
  unfold activateRelay
  split
  · exact ⟨seen,rfl⟩
  · refine wp_bind.mpr (wp_plain trivial trivial fun p => ?_)
    cases p with
    | none => exact ⟨seen,rfl⟩
    | some p =>
      refine wp_bind.mpr (wp_plain trivial trivial fun contract => ?_)
      cases contract with
      | none => exact ⟨seen,rfl⟩
      | some contract =>
        refine wp_bind.mpr ((quiet_ensureContractPeriod cfg _).wp trivial ?_)
        rintro _ _ ⟨n,-,rfl⟩
        refine wp_bind.mpr (wp_plain trivial trivial fun contract => ?_)
        cases contract with
        | none => exact ⟨n,rfl⟩
        | some contract =>
          refine wp_bind.mpr (wp_perform.mpr ⟨trivial,?_⟩)
          rintro now _ ⟨⟨-,rfl⟩,-⟩
          refine wp_bind.mpr (wp_perform.mpr ⟨rfl,?_⟩)
          rintro _ _ ⟨id,rfl,rfl⟩
          refine wp_perform.mpr ⟨⟨rfl,le_refl _⟩,?_⟩
          rintro _ _ rfl
          exact ⟨_,rfl⟩

theorem tickCopies_wp {todo : List ActiveSession} (hmem : ∀ a∈todo,a.held∈copies)
    (hapart : (todo.map ActiveSession.relayUUID).Nodup) :
    (sessionMonitor cfg.cal).wp (fun _ g' => ∃ seen' copies', g'=.ticking month seen' copies') (tickCopies cfg todo)
      (.ticking month seen copies) := by
  induction todo generalizing seen copies with
  | nil => exact ⟨seen,copies,rfl⟩
  | cons a rest ih =>
    obtain ⟨hhead,hrest⟩:=nodup_cons.mp hapart
    unfold tickCopies settleCrossingMonth
    refine wp_bind.mpr (wp_bind.mpr (wp_perform.mpr ⟨trivial,?_⟩))
    rintro now _ ⟨⟨-,rfl⟩,hmonth⟩
    refine wp_mono ?_ (settleMonths_wp_ticking (hmem a mem_cons_self) (hmonth _ _ _ rfl) (le_refl now))
    rintro b _ ⟨n,copies',rfl,hothers⟩
    refine wp_bind.mpr (wp_bind.mpr (wp_perform.mpr ⟨trivial,?_⟩))
    rintro now' _ ⟨⟨-,rfl⟩,-⟩
    refine wp_perform.mpr ⟨trivial,?_⟩
    rintro _ _ rfl
    refine ih (fun c hc => hothers c.held (hmem c (mem_cons_of_mem a hc)) ?_) hrest
    intro heq
    exact hhead (heq ▸ mem_map_of_mem hc)

theorem handle_keeps (r : Request) : Keeps cfg.cal (handle cfg r) r.stage := by
  cases r with
  | checkConnection deviceID => exact (Quiet.bind (quiet_checkConnection cfg deviceID) fun _ => .pure ()).keeps 0
  | prepareRelay relayUUID deviceID operatorID =>
    exact (Quiet.bind (quiet_prepareRelay cfg relayUUID deviceID operatorID) fun _ => .pure ()).keeps 0
  | activateRelay relayUUID => exact activateRelay_keeps relayUUID 0
  | endRelay relayUUID => exact endRelay_keeps relayUUID
  | tick order =>
    show Keeps cfg.cal (tickActive cfg order >>= fun _ => ask .sweepStalePending) .waiting
    refine wp_bind.mpr (wp_bind.mpr (wp_perform.mpr ⟨trivial,?_⟩))
    rintro snap _ ⟨hapart,m,rfl⟩
    have hperm:=order.perm snap
    refine wp_mono ?_ (tickCopies_wp (fun a ha => mem_map_of_mem (hperm.mem_iff.mp ha))
      ((hperm.map ActiveSession.relayUUID).nodup_iff.mpr hapart))
    rintro _ _ ⟨n,copies,rfl⟩
    refine wp_perform.mpr ⟨trivial,?_⟩
    rintro _ _ rfl
    exact ⟨n,rfl⟩

end

end BetterDesk.Billing
