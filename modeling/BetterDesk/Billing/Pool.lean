import BetterDesk.Billing.Metering

/-! # The pool of included minutes (billing/service.go, billing/period_service.go) -/

namespace BetterDesk.Billing
open Db Programs Exec List Option Function

variable {cfg : Config}

def included (cal : Calendar) (segs : List Segment) (contractID : String) (period : ℕ) : ℕ :=
  ((segs.filter fun seg => seg.contractID=contractID ∧ cal.periodAt seg.start=period).map Segment.included).sum

def Meter.usedTotal (s : Meter) (contractID : String) (period : ℕ) : ℕ :=
  ((s.totals contractID period).map PeriodTotal.includedMinutesUsed).getD 0

structure Kept (cfg : Config) (undrawn unsummed uncharged : List Segment) (s : Meter) : Prop where
  own : ∀ id row, s.contracts id=some row → row.id=id
  pools : ∀ d∈s.draws,d.pool=some (cfg.cal.periodAt d.segment.start) ∧
    d.segment.stop≤cfg.cal.monthEnd (cfg.cal.periodAt d.segment.start)
  summed : ∀ id m, s.usedTotal id m+included cfg.cal unsummed id m =
    included cfg.cal (s.draws.map Draw.segment) id m
  balance : s.charges++uncharged=s.draws.map Draw.segment++undrawn
  reached : ∀ d∈s.draws, ∀ row, s.contracts d.segment.contractID=some row →
    ∃ m, row.currentPeriod=some m ∧ cfg.cal.periodAt d.segment.start ≤ m
  past : ∀ id row m, s.contracts id=some row → row.currentPeriod=some m → m≤cfg.cal.periodAt s.now
  pool : ∀ id row pkg, s.contracts id=some row → s.packages row.packageID=some pkg →
    row.remainingMinutes=pkg.includedMinutes -
      (row.currentPeriod.map (included cfg.cal (s.draws.map Draw.segment) id)).getD 0
  active : ∀ x∈s.active,x.2.id < s.sessions.length ∧ (s.contracts x.2.contractID).isSome=true

structure Meter.Fresh (cfg : Config) (s : Meter) : Prop where
  own : ∀ id row, s.contracts id=some row → row.id=id
  past : ∀ id row m, s.contracts id=some row → row.currentPeriod=some m → m≤cfg.cal.periodAt s.now
  full : ∀ id row pkg, s.contracts id=some row → s.packages row.packageID=some pkg →
    row.remainingMinutes=pkg.includedMinutes
  totals : ∀ id m, s.totals id m=none
  sessions : s.sessions=[]
  active : s.active=[]
  started : s.started=[]
  draws : s.draws=[]
  charges : s.charges=[]

section Sums
variable {cal : Calendar} {l l' : List Segment} {seg : Segment} {id : String} {m : ℕ}

@[simp] theorem included_nil : included cal [] id m=0 := rfl

@[simp] theorem included_append : included cal (l++l') id m=included cal l id m+included cal l' id m := by
  unfold included
  rw [filter_append,map_append,sum_append]

theorem included_self : included cal [seg] seg.contractID (cal.periodAt seg.start)=seg.included := by
  simp [included]

theorem included_of_ne (h : ¬ (seg.contractID=id ∧ cal.periodAt seg.start=m)) : included cal [seg] id m=0 := by
  simp [included,h]

theorem included_eq_zero (h : ∀ seg∈l,¬ (seg.contractID=id ∧ cal.periodAt seg.start=m)) : included cal l id m=0 := by
  unfold included
  rw [filter_eq_nil_iff.mpr]
  · rfl
  · intro x hx
    simpa using h x hx

end Sums

namespace Kept
variable {undrawn unsummed uncharged : List Segment} {s : Meter}

theorem tick (h : Kept cfg undrawn unsummed uncharged s) (n : ℕ) :
    Kept cfg undrawn unsummed uncharged (Billing.tick s n) :=
  {h with past := fun id row m hrow hm => (h.past id row m hrow hm).trans (cfg.cal.periodAt_mono (Nat.le_add_right _ _))}

variable {row : ContractRow} {seg : Segment} {id : String} {m : ℕ}

theorem included_ahead (h : Kept cfg undrawn unsummed uncharged s)
    (hrow : s.contracts row.id=some row) (hm : ∀ p, row.currentPeriod=some p → p < m) :
    included cfg.cal (s.draws.map Draw.segment) row.id m=0 := by
  refine included_eq_zero ?_
  rintro seg hseg ⟨hid,hmonth⟩
  obtain ⟨d,hd,rfl⟩:=mem_map.mp hseg
  obtain ⟨p,hp,hle⟩:=h.reached d hd row (hid ▸ hrow)
  have hlt:=hm p hp
  omega

theorem renew (h : Kept cfg undrawn unsummed uncharged s) {period limit : ℕ}
    (hrow : s.contracts row.id=some row) (hpast : period≤cfg.cal.periodAt s.now)
    (hahead : ∀ p, row.currentPeriod=some p → p<period)
    (hlimit : ∀ pkg, s.packages row.packageID=some pkg → limit=pkg.includedMinutes) :
    Kept cfg undrawn unsummed uncharged (s.setContract {row with
      currentPeriod := some period
      remainingMinutes := limit}) := by
  have hzero:=h.included_ahead hrow hahead
  have hself : (s.setContract {row with
      currentPeriod := some period
      remainingMinutes := limit}).contracts row.id=some {row with
        currentPeriod := some period
        remainingMinutes := limit} := update_self ..
  have hother {id : String} (hid : id≠row.id) : (s.setContract {row with
      currentPeriod := some period
      remainingMinutes := limit}).contracts id=s.contracts id := update_of_ne hid ..
  refine {h with own := ?_,reached := ?_,past := ?_,pool := ?_,active := ?_}
  · intro id r hr
    by_cases hid : id=row.id
    · subst hid
      rw [hself] at hr
      cases hr
      rfl
    · rw [hother hid] at hr
      exact h.own id r hr
  · intro d hd r hr
    by_cases hid : d.segment.contractID=row.id
    · rw [hid,hself] at hr
      cases hr
      obtain ⟨p,hp,hle⟩:=h.reached d hd row (hid ▸ hrow)
      have hlt:=hahead p hp
      exact ⟨period,rfl,by omega⟩
    · rw [hother hid] at hr
      exact h.reached d hd r hr
  · intro id r m hr hm
    by_cases hid : id=row.id
    · subst hid
      rw [hself] at hr
      cases hr
      cases hm
      exact hpast
    · rw [hother hid] at hr
      exact h.past id r m hr hm
  · intro id r pkg hr hpkg
    by_cases hid : id=row.id
    · subst hid
      rw [hself] at hr
      cases hr
      have hfull:=hlimit pkg hpkg
      show limit=pkg.includedMinutes-included cfg.cal (s.draws.map Draw.segment) row.id period
      omega
    · rw [hother hid] at hr
      exact h.pool id r pkg hr hpkg
  · intro x hx
    refine (h.active x hx).imp_right fun hsome => ?_
    by_cases hid : x.2.contractID=row.id
    · rw [hid,hself]
      rfl
    · rw [hother hid]
      exact hsome

theorem setTotal_self (s : Meter) (id : String) (m : ℕ) (t : PeriodTotal) : (s.setTotal id m t).totals id m=some t := by
  unfold Meter.setTotal
  dsimp only
  rw [update_self,update_self]

theorem setTotal_of_ne (s : Meter) {id' : String} {m' : ℕ} (t : PeriodTotal) (h : ¬ (id'=id ∧ m'=m)) :
    (s.setTotal id m t).totals id' m'=s.totals id' m' := by
  unfold Meter.setTotal
  dsimp only
  by_cases hid : id'=id
  · subst hid
    rw [update_self,update_of_ne fun hm => h ⟨rfl,hm⟩]
  · rw [update_of_ne hid]

theorem usedTotal_setTotal_self (s : Meter) (id : String) (m : ℕ) (t : PeriodTotal) :
    (s.setTotal id m t).usedTotal id m=t.includedMinutesUsed := by
  unfold Meter.usedTotal
  rw [setTotal_self]
  rfl

theorem usedTotal_setTotal_of_ne (s : Meter) {id' : String} {m' : ℕ} (t : PeriodTotal) (h : ¬ (id'=id ∧ m'=m)) :
    (s.setTotal id m t).usedTotal id' m'=s.usedTotal id' m' := by
  unfold Meter.usedTotal
  rw [setTotal_of_ne s t h]

theorem setTotal (h : Kept cfg undrawn unsummed uncharged s) {t : PeriodTotal}
    (ht : t.includedMinutesUsed=s.usedTotal id m) : Kept cfg undrawn unsummed uncharged (s.setTotal id m t) := by
  refine {h with summed := ?_}
  intro id' m'
  by_cases hsame : id'=id ∧ m'=m
  · obtain ⟨rfl,rfl⟩:=hsame
    rw [usedTotal_setTotal_self,ht]
    exact h.summed id' m'
  · rw [usedTotal_setTotal_of_ne s t hsame]
    exact h.summed id' m'

theorem addUsage (h : Kept cfg undrawn [seg] uncharged s) {t : PeriodTotal}
    (ht : t.includedMinutesUsed=s.usedTotal seg.contractID (cfg.cal.periodAt seg.start)+seg.included) :
    Kept cfg undrawn [] uncharged (s.setTotal seg.contractID (cfg.cal.periodAt seg.start) t) := by
  refine {h with summed := ?_}
  intro id m
  have hsum:=h.summed id m
  by_cases hsame : id=seg.contractID ∧ m=cfg.cal.periodAt seg.start
  · obtain ⟨rfl,rfl⟩:=hsame
    rw [included_self] at hsum
    rw [usedTotal_setTotal_self,ht,included_nil]
    exact hsum
  · rw [included_of_ne fun ⟨hid,hm⟩ => hsame ⟨hid.symm,hm.symm⟩] at hsum
    rw [usedTotal_setTotal_of_ne s t hsame]
    exact hsum

theorem draw {undrawn' uncharged' : List Segment}
    (h : Kept cfg undrawn [] uncharged s) (hrow : s.contracts row.id=some row) (hid : seg.contractID=row.id)
    (hstop : seg.stop≤cfg.cal.monthEnd (cfg.cal.periodAt seg.start))
    (hmonth : row.currentPeriod=some (cfg.cal.periodAt seg.start))
    (hbalance : s.charges++uncharged'=s.draws.map Draw.segment++[seg]++undrawn') :
    Kept cfg undrawn' [seg] uncharged' {s.setContract {row with
      remainingMinutes := row.remainingMinutes-seg.included} with
      draws := s.draws++[Draw.mk seg row.currentPeriod]} := by
  have hself : (s.setContract {row with remainingMinutes := row.remainingMinutes-seg.included}).contracts row.id =
      some {row with remainingMinutes := row.remainingMinutes-seg.included} := update_self ..
  have hother {id : String} (hne : id≠row.id) :
      (s.setContract {row with remainingMinutes := row.remainingMinutes-seg.included}).contracts id=s.contracts id :=
    update_of_ne hne ..
  have hnotin {id : String} (m : ℕ) (hne : id≠row.id) : included cfg.cal [seg] id m=0 :=
    included_of_ne fun hsame => hne (hsame.1.symm.trans hid)
  have hown : included cfg.cal [seg] row.id (cfg.cal.periodAt seg.start)=seg.included := by rw [← hid,included_self]
  have hdraws : (s.draws++[Draw.mk seg row.currentPeriod]).map Draw.segment=s.draws.map Draw.segment++[seg] := by
    rw [map_append]
    rfl
  -- a contract after the draw comes from one before, in the same month
  have hback {id : String} {r : ContractRow}
      (hr : (s.setContract {row with remainingMinutes := row.remainingMinutes-seg.included}).contracts id=some r) :
      ∃ r₀, s.contracts id=some r₀ ∧ r₀.currentPeriod=r.currentPeriod := by
    by_cases hne : id=row.id
    · subst hne
      rw [hself] at hr
      cases hr
      exact ⟨row,hrow,rfl⟩
    · rw [hother hne] at hr
      exact ⟨r,hr,rfl⟩
  refine ⟨?_,?_,?_,?_,?_,?_,?_,?_⟩
  · intro id r hr
    by_cases hne : id=row.id
    · subst hne
      rw [hself] at hr
      cases hr
      rfl
    · rw [hother hne] at hr
      exact h.own id r hr
  · intro d hd
    rcases mem_append.mp hd with hd | hd
    · exact h.pools d hd
    · rw [mem_singleton.mp hd]
      exact ⟨hmonth,hstop⟩
  · intro id m
    have hsum:=h.summed id m
    show s.usedTotal id m+_=included cfg.cal ((s.draws++[Draw.mk seg row.currentPeriod]).map Draw.segment) id m
    rw [hdraws,included_append,← hsum,included_nil,Nat.add_zero]
  · show s.charges++uncharged'=(s.draws++[Draw.mk seg row.currentPeriod]).map Draw.segment++undrawn'
    rw [hdraws]
    exact hbalance
  · intro d hd r hr
    obtain ⟨r₀,hr₀,hsame⟩:=hback hr
    rw [← hsame]
    rcases mem_append.mp hd with hd | hd
    · exact h.reached d hd r₀ hr₀
    · rw [mem_singleton.mp hd] at hr₀ ⊢
      rw [hid,hrow] at hr₀
      cases hr₀
      exact ⟨_,hmonth,Nat.le_refl _⟩
  · intro id r m hr hm
    obtain ⟨r₀,hr₀,hsame⟩:=hback hr
    exact h.past id r₀ m hr₀ (hsame.trans hm)
  · intro id r pkg hr hpkg
    show _=pkg.includedMinutes-(r.currentPeriod.map (included cfg.cal
      ((s.draws++[Draw.mk seg row.currentPeriod]).map Draw.segment) id)).getD 0
    rw [hdraws]
    by_cases hne : id=row.id
    · subst hne
      rw [hself] at hr
      cases hr
      have hpool:=h.pool row.id row pkg hrow hpkg
      simp only [hmonth,map_some,getD_some,included_append,hown] at hpool ⊢
      omega
    · rw [hother hne] at hr
      rw [h.pool id r pkg hr hpkg]
      cases r.currentPeriod with
      | none => rfl
      | some m => simp [included_append,hnotin m hne]
  · intro x hx
    refine (h.active x hx).imp_right fun hsome => ?_
    by_cases hne : x.2.contractID=row.id
    · rw [hne]
      exact isSome_iff_exists.mpr ⟨_,hself⟩
    · show (Meter.contracts (s.setContract _) x.2.contractID).isSome=true
      rw [hother hne]
      exact hsome

theorem charge {undrawn' uncharged' : List Segment} (row : BillingSession) (h : Kept cfg undrawn unsummed uncharged s)
    (hbalance : s.charges++[seg]++uncharged'=s.draws.map Draw.segment++undrawn') :
    Kept cfg undrawn' unsummed uncharged' {s with
      sessions := s.sessions.set seg.session row
      charges := s.charges++[seg]} := by
  refine {h with balance := hbalance,active := ?_}
  intro x hx
  show x.2.id<(s.sessions.set seg.session row).length ∧ _
  rw [length_set]
  exact h.active x hx

theorem create (row : BillingSession) (h : Kept cfg undrawn unsummed uncharged s) :
    Kept cfg undrawn unsummed uncharged {s with sessions := s.sessions++[row]} := by
  refine {h with active := ?_}
  intro x hx
  refine (h.active x hx).imp_left fun hlt => ?_
  show x.2.id<(s.sessions++[row]).length
  rw [length_append]
  omega

theorem maps {active : SyncMap String ActiveSession} (h : Kept cfg undrawn unsummed uncharged s)
    (pending : SyncMap String PendingRelay) (started : List Started)
    (hactive : ∀ x∈active,x.2.id < s.sessions.length ∧ (s.contracts x.2.contractID).isSome=true) :
    Kept cfg undrawn unsummed uncharged {s with
      pending := pending
      active := active
      started := started} := {h with active := hactive}

theorem updateActive (h : Kept cfg undrawn unsummed uncharged s) (relayUUID : String)
    {f : ActiveSession → ActiveSession} (hf : ∀ a, (f a).id=a.id ∧ (f a).contractID=a.contractID) :
    Kept cfg undrawn unsummed uncharged (s.updateActive relayUUID f) := by
  unfold Meter.updateActive
  split
  · exact h
  · rename_i cur hcur
    refine h.maps s.pending s.started ?_
    intro x hx
    rcases SyncMap.mem_store hx with rfl | hx
    · rw [(hf cur).1,(hf cur).2]
      exact h.active _ (SyncMap.mem_of_load hcur)
    · exact h.active x hx

end Kept

end BetterDesk.Billing
