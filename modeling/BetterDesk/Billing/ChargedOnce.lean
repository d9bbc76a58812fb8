import BetterDesk.Billing.SessionRuns
import BetterDesk.Billing.Conservation

/-! # Every second of a session is charged once (billing/service.go, billing/period_service.go) -/

namespace BetterDesk.Billing
open Db Programs Exec List Option

def Op.finalizes (id : ℕ) : Op → Bool
  | .updateBillingSession i row _ => i=id&&row.endedAt.isSome
  | _ => false

def Process.finalizations (p : Process Meter Request Op Res Unit) (id : ℕ) : ℕ := p.log.countP fun e => e.op.finalizes id

def finalizations (sys : System) (id : ℕ) : ℕ := (sys.procs.map fun p => Process.finalizations p id).sum

section
variable {cal : Calendar} {s : Meter} {g : Stage} {rest : List Stage} {op : Op}

theorem ended_step (h : Traced cal s (g::rest)) (hall : Allowed cal g op) (id : ℕ) :
    (perform s op).2.ended id=s.ended id + if op.finalizes id then 1 else 0 := by
  have hsame (hs : (perform s op).2.sessions=s.sessions) (hf : op.finalizes id=false) :
      (perform s op).2.ended id=s.ended id + if op.finalizes id then 1 else 0 := by
    unfold Meter.ended
    rw [hs,hf]
    rfl
  cases op with
  | createBillingSession row =>
    cases g with
    | free seen =>
      have hopen : row.endedAt=none := hall
      show (if (((s.sessions++[row])[id]?).bind BillingSession.endedAt).isSome then 1 else 0)=_
      unfold Meter.ended
      have hnone : ((s.sessions++[row])[id]?).bind BillingSession.endedAt=s.sessions[id]?.bind BillingSession.endedAt := by
        rw [List.getElem?_append]
        split
        · rfl
        · rename_i hlt
          rw [List.getElem?_eq_none (not_lt.mp hlt),List.getElem?_singleton]
          split
          · exact hopen
          · rfl
      rw [hnone]
      rfl
    | _ => exact hall.1.elim
  | updateBillingSession i row seg =>
    have hrow : OpenRow s.sessions[i]? := by
      cases g with
      | ending x seen => exact h.row_open hall.1.id
      | ticking m seen copies =>
        obtain ⟨⟨x,hx,-⟩,-⟩:=hall
        exact h.row_open ⟨x,hx⟩
      | _ => exact hall.1.elim
    obtain ⟨sess,hsess,hopen⟩:=hrow
    by_cases hid : i=id
    · subst hid
      have hself : (perform s (.updateBillingSession i row seg)).2.sessions[i]?=some row :=
        List.getElem?_set_self (List.getElem?_eq_some_iff.mp hsess).1
      unfold Meter.ended
      rw [hself,hsess]
      simp [hopen,Op.finalizes]
    · have hother : (perform s (.updateBillingSession i row seg)).2.sessions[id]?=s.sessions[id]? := List.getElem?_set_ne hid
      unfold Meter.ended
      rw [hother]
      simp [Op.finalizes,hid]
  | syncActive u | updateProgress u =>
    refine hsame ?_ rfl
    show (s.updateActive u _).sessions=_
    unfold Meter.updateActive
    split <;> rfl
  | updateBillingContract row drawn =>
    have hplain:=plain_same (s := s) (show Op.Plain (.updateBillingContract row drawn) from trivial)
    exact hsame hplain.2.1 rfl
  | _ => exact hsame rfl rfl

end

def NoneUnderWay (kind : Request → Bool) (sys : System) : Prop := ∀ p∈sys.procs,kind p.request=true → p.prog.nextOp=none

/-- A UUID is entered when it is not in use and no call ends it. -/
def Safe (cal : Calendar) (sys : System) : Op → Prop
  | .putActive a => sys.store.active.load a.relayUUID=none ∧ NoneUnderWay (Request.ends a.relayUUID) sys
  | .takeActive u => NoneUnderWay Request.ticks sys ∨
    ∀ a∈sys.store.active.load u, cal.periodAt a.startedAt=cal.periodAt sys.store.now
  | _ => True

def Untangled (cal : Calendar) (sys : System) : Act → Prop
  | .begin r => r.ticks=true → NoneUnderWay Request.ticks sys
  | .step i fails => fails=false ∧ ∀ p∈sys.procs[i]?, ∀ op∈p.prog.nextOp,Safe cal sys op
  | .env e => NoneUnderWay Request.ticks sys ∨ cal.periodAt (sys.store.now+e)=cal.periodAt sys.store.now

instance (kind : Request → Bool) (sys : System) : Decidable (NoneUnderWay kind sys) :=
  inferInstanceAs (Decidable (∀ p∈sys.procs,kind p.request=true → p.prog.nextOp=none))

instance (cal : Calendar) (sys : System) : (op : Op) → Decidable (Safe cal sys op)
  | .putActive a => inferInstanceAs (Decidable (sys.store.active.load a.relayUUID=none ∧
      NoneUnderWay (Request.ends a.relayUUID) sys))
  | .takeActive u => inferInstanceAs (Decidable (NoneUnderWay Request.ticks sys ∨
      ∀ a∈sys.store.active.load u, cal.periodAt a.startedAt=cal.periodAt sys.store.now))
  | .now => isTrue trivial
  | .clockSynced => isTrue trivial
  | .resolveContract _ => isTrue trivial
  | .getBillingContract _ => isTrue trivial
  | .getBillingPackage _ => isTrue trivial
  | .updateBillingContract _ _ => isTrue trivial
  | .getBillingPeriodTotal _ _ => isTrue trivial
  | .upsertBillingPeriodTotal _ _ _ => isTrue trivial
  | .addBillingPeriodUsage _ _ _ _ _ _ => isTrue trivial
  | .createBillingSession _ => isTrue trivial
  | .getBillingSession _ => isTrue trivial
  | .updateBillingSession _ _ _ => isTrue trivial
  | .putPending _ _ => isTrue trivial
  | .takePending _ => isTrue trivial
  | .sweepStalePending => isTrue trivial
  | .snapshotActive => isTrue trivial
  | .syncActive _ _ _ => isTrue trivial
  | .updateProgress _ _ => isTrue trivial

instance (cal : Calendar) (sys : System) : (a : Act) → Decidable (Untangled cal sys a)
  | .begin r => inferInstanceAs (Decidable (r.ticks=true → NoneUnderWay Request.ticks sys))
  | .step i fails => inferInstanceAs (Decidable (fails=false ∧ ∀ p∈sys.procs[i]?, ∀ op∈p.prog.nextOp,Safe cal sys op))
  | .env e => inferInstanceAs (Decidable (NoneUnderWay Request.ticks sys ∨
      cal.periodAt (sys.store.now+e)=cal.periodAt sys.store.now))

section
variable {cfg : Config}

abbrev Done (_ : Request) (_ : Unit) (g : Stage) : Prop := ∃ seen, g=.free seen

structure Followed (cal : Calendar) (sys : System) (gs : List Stage) : Prop where
  traced : Traced cal sys.store gs
  linked : List.Forall₂ (fun p g => g.Of p.request) sys.procs gs
  counted : ∀ id, finalizations sys id=sys.store.ended id

theorem forall₂_mem_right {A B : Type} {R S : A → B → Prop} {l : List A} {l' : List B} (hR : List.Forall₂ R l l')
    (hS : List.Forall₂ S l l') {b : B} (hb : b∈l') : ∃ a∈l,R a b ∧ S a b := by
  induction hR with
  | nil => cases hb
  | cons hr _ ih =>
    obtain ⟨hs,hrest⟩:=forall₂_cons.mp hS
    rcases mem_cons.mp hb with rfl | hb
    · exact ⟨_,mem_cons_self,hr,hs⟩
    · obtain ⟨a,ha,hra⟩:=ih hrest hb
      exact ⟨a,mem_cons_of_mem _ ha,hra⟩

variable {gs : List Stage} {cal : Calendar} {sys : System} {g : Stage} {s : Meter}

theorem under_way (htr : Tracked (sessionMonitor cfg.cal) Done sys.procs gs)
    (hlink : List.Forall₂ (fun p g => g.Of p.request) sys.procs gs) {kind : Request → Bool}
    (hnone : NoneUnderWay kind sys) (hg : g∈gs) (hkind : ∀ r, g.Of r → kind r=true) : ∃ seen, g=.free seen := by
  obtain ⟨p,hp,hwp,hof⟩:=forall₂_mem_right htr hlink hg
  have hdone:=hnone p hp (hkind _ hof)
  cases hprog : p.prog with
  | done a =>
    rw [hprog] at hwp
    exact hwp
  | call op k =>
    rw [hprog] at hdone
    cases hdone

theorem no_ticker (htr : Tracked (sessionMonitor cfg.cal) Done sys.procs gs)
    (hlink : List.Forall₂ (fun p g => g.Of p.request) sys.procs gs) (hnone : NoneUnderWay Request.ticks sys)
    (hg : g∈gs) : g.claim≠some .ticker := by
  intro hc
  have hkind (r : Request) (hr : g.Of r) : r.ticks=true := by
    cases g with
    | waiting | ticking | owing => exact hr
    | _ => simp [Stage.claim] at hc
  obtain ⟨seen,rfl⟩:=under_way htr hlink hnone hg hkind
  cases hc

theorem fit_of_safe {rest : List Stage} {op : Op} (htr : Tracked (sessionMonitor cfg.cal) Done sys.procs gs)
    (hlink : List.Forall₂ (fun p g => g.Of p.request) sys.procs gs) (hperm : gs.Perm (g::rest))
    (hsafe : Safe cfg.cal sys op) : Fit cfg.cal sys.store rest op := by
  have hmem {g₂ : Stage} (hg₂ : g₂∈rest) : g₂∈gs := hperm.mem_iff.mpr (mem_cons_of_mem g hg₂)
  cases op with
  | putActive a =>
    refine ⟨hsafe.1,fun y n hy heq => ?_⟩
    obtain ⟨seen,hfree⟩:=under_way htr hlink hsafe.2 (hmem hy) fun r hr => heq ▸ hr
    cases hfree
  | takeActive u => exact hsafe.imp_left fun hnone g₂ hg₂ => no_ticker htr hlink hnone (hmem hg₂)
  | _ => trivial

theorem Traced.elapse (h : Traced cal s gs) (n : ℕ)
    (hmonth : (∀ g∈gs,g.claim≠some .ticker) ∨ cal.periodAt (s.now+n)=cal.periodAt s.now) :
    Traced cal (tick s n) gs := by
  have hlater {i : ℕ} (hi : i ≤ s.now) : i≤(tick s n).now := hi.trans (Nat.le_add_right _ _)
  refine ⟨h.keys,h.own,h.ids,h.known,h.fresh,?_,?_,h.apart,h.located⟩
  · intro u x hx
    obtain ⟨hle,hrest⟩:=h.entries u x hx
    exact ⟨hlater hle,hrest⟩
  · intro g hg
    have hok:=h.stages g hg
    cases g with
    | free seen => exact hlater hok
    | starting id seen => exact ⟨hlater hok.1,hok.2⟩
    | closing u => trivial
    | ending x seen => exact ⟨hlater hok.1,hlater hok.2.1,hok.2.2⟩
    | waiting => trivial
    | ticking m seen copies =>
      have hsame:=hmonth.resolve_left fun hnone => hnone _ hg rfl
      exact ⟨hsame.trans hok.here,hlater hok.seen,hok.apart,hok.copies⟩
    | owing m seen copies id boundary =>
      have hsame:=hmonth.resolve_left fun hnone => hnone _ hg rfl
      obtain ⟨ht,hle,hrest⟩:=hok
      exact ⟨⟨hsame.trans ht.here,hlater ht.seen,ht.apart,ht.copies⟩,hlater hle,hrest⟩

theorem Traced.enter (h : Traced cal s gs) (r : Request)
    (hticker : r.ticks=true → ∀ g∈gs,g.claim≠some .ticker) : Traced cal s (r.stage::gs) := by
  have hok : StageOk cal s r.stage := by
    cases r with
    | endRelay u =>
      show StageOk cal s (if u="" then .free 0 else .closing u)
      split
      · exact Nat.zero_le _
      · trivial
    | tick order => trivial
    | _ => exact Nat.zero_le _
  refine ⟨h.keys,h.own,h.ids,h.known,h.fresh,?_,?_,?_,?_⟩
  · intro u x hx
    obtain ⟨hle,y,hy,hid,hu,hto⟩:=h.entries u x hx
    refine ⟨hle,y,hy,hid,hu,hto.imp_right ?_⟩
    rintro ⟨g,hg,ho⟩
    exact ⟨g,mem_cons_of_mem _ hg,ho⟩
  · intro g hg
    rcases mem_cons.mp hg with rfl | hg
    · exact hok
    · exact h.stages g hg
  · cases r with
    | tick order =>
      have hnone:=hticker rfl
      show ((Stage.waiting::gs).filterMap Stage.claim).Nodup
      rw [filterMap_cons_some (show Stage.claim .waiting=some .ticker from rfl)]
      refine nodup_cons.mpr ⟨fun hmem => ?_,h.apart⟩
      obtain ⟨g,hg,hc⟩:=mem_filterMap.mp hmem
      exact hnone g hg hc
    | endRelay u =>
      show (((if u="" then Stage.free 0 else .closing u)::gs).filterMap Stage.claim).Nodup
      rw [filterMap_cons_none (by split <;> rfl)]
      exact h.apart
    | _ => exact h.apart
  · intro x hx
    refine (h.located x hx).imp_right fun hloc => hloc.imp_left ?_
    rintro ⟨g,hg,he⟩
    exact ⟨g,mem_cons_of_mem _ hg,he⟩

theorem stage_of (r : Request) : r.stage.Of r := by
  cases r with
  | endRelay u =>
    show (if u="" then Stage.free 0 else .closing u).Of (.endRelay u)
    split
    · trivial
    · exact decide_eq_true rfl
  | tick order => exact rfl
  | _ => trivial

structure Meter.NoSessions (s : Meter) : Prop where
  sessions : s.sessions=[]
  active : s.active=[]
  started : s.started=[]
  charges : s.charges=[]

theorem Meter.NoSessions.traced (h : s.NoSessions) : Traced cal s [] where
  keys := by
    rw [h.active]
    exact nodup_nil
  own x hx := by
    rw [h.active] at hx
    cases hx
  ids := by
    rw [h.started]
    exact nodup_nil
  known x hx := by
    rw [h.started] at hx
    cases hx
  fresh seg hseg := by
    rw [h.charges] at hseg
    cases hseg
  entries u x hx := by
    rw [Meter.listed,h.active] at hx
    cases hx
  stages g hg := by cases hg
  apart := nodup_nil
  located x hx := by
    rw [h.started] at hx
    cases hx

theorem followed {s₀ : Meter} {t : System} {as : List Act} (h0 : s₀.NoSessions)
    (hok : Along (step cfg) (Untangled cfg.cal) (initial s₀) as) (h : exec (step cfg) (initial s₀) as=some t) :
    ∃ gs, Tracked (sessionMonitor cfg.cal) Done t.procs gs ∧ Followed cfg.cal t gs := by
  refine exec_tracked (Followed cfg.cal) ?_ ?_ ?_ ?_ hok h
  · intro sys gs r htr hJ hbegin
    refine ⟨r.stage,handle_keeps r,?_,?_,?_⟩
    · have hentered:=hJ.traced.enter r fun ht g hg => no_ticker htr hJ.linked (hbegin ht) hg
      exact hentered.perm (perm_append_singleton r.stage gs).symm
    · exact rel_append hJ.linked (.cons (stage_of r) .nil)
    · intro id
      show ((sys.procs++[_]).map fun p => Process.finalizations p id).sum=_
      rw [map_append,sum_append,← hJ.counted id]
      rfl
  · intro sys gs e htr hJ henv
    refine ⟨hJ.traced.elapse e ?_,hJ.linked,hJ.counted⟩
    exact henv.imp_left fun hnone g hg => no_ticker htr hJ.linked hnone hg
  · intro sys gs i fails p op k g htr hJ hstep hp hg hprog hall hwp
    obtain ⟨rfl,hsafe⟩:=hstep
    have hlt:=(List.getElem?_eq_some_iff.mp hg).1
    obtain rfl : gs[i]=g := (List.getElem?_eq_some_iff.mp hg).2
    have hperm : gs.Perm (gs[i]::gs.eraseIdx i) := (getElem_cons_eraseIdx_perm hlt).symm
    have htraced:=hJ.traced.perm hperm
    have hfit:=fit_of_safe htr hJ.linked hperm (hsafe p hp op (by rw [hprog]; rfl))
    obtain ⟨g',hnext,hnew⟩:=htraced.step hall hfit
    refine ⟨g',hnext,hnew.perm (set_perm_cons_eraseIdx hlt g').symm,?_,?_⟩
    · obtain ⟨q,hq,hof⟩:=forall₂_getElem? hJ.linked hp
      obtain rfl : gs[i]=q := Option.some.inj (hg.symm.trans hq)
      exact forall₂_set hJ.linked (next_of hnext hall hof)
    · intro id
      have hlog : Process.finalizations ⟨p.request,⟨sys.store,op,(run sys.store op false).1⟩::p.log,
          k (run sys.store op false).1⟩ id=Process.finalizations p id + if op.finalizes id then 1 else 0 := by
        unfold Process.finalizations
        rw [countP_cons]
      have hsum:=sum_set (f := fun p => Process.finalizations p id) hp hlog
      show ((sys.procs.set i _).map fun p => Process.finalizations p id).sum=(perform sys.store op).2.ended id
      rw [hsum,ended_step htraced hall id,← hJ.counted id]
      rfl
  · refine ⟨h0.traced,.nil,fun id => ?_⟩
    show 0=s₀.ended id
    unfold Meter.ended
    rw [h0.sessions]
    rfl

/-- A session that was activated is ended at most once. -/
def ChargedOnce (sys : System) : Prop :=
  ∀ x∈sys.store.started,finalizations sys x.id≤1 ∧ (sys.Idle → ∃ stop,
    (∀ i, timesCharged (sys.store.chargedTo x.id) i = if x.startedAt ≤ i ∧ i < stop then 1 else 0) ∧
    ((finalizations sys x.id=0 ∧ ∃ a, sys.store.active.load x.relayUUID=some a ∧ a.id=x.id ∧ a.startedAt=stop) ∨
      (finalizations sys x.id=1 ∧ ∃ row, sys.store.sessions[x.id]?=some row ∧ row.endedAt=some stop)))

theorem seconds_charged_once {s₀ : Meter} {t : System} {as : List Act} (h0 : s₀.NoSessions)
    (hok : Along (step cfg) (Untangled cfg.cal) (initial s₀) as) (h : exec (step cfg) (initial s₀) as=some t) :
    ChargedOnce t := by
  obtain ⟨gs,htr,hJ⟩:=followed h0 hok h
  intro x hx
  rw [hJ.counted]
  refine ⟨by unfold Meter.ended; split <;> omega,fun hidle => ?_⟩
  have hfree (g : Stage) (hg : g∈gs) : ∃ seen, g=.free seen :=
    under_way htr hJ.linked (show NoneUnderWay (fun _ => true) t from fun p hp _ => hidle p hp) hg fun _ _ => rfl
  rcases hJ.traced.located x hx with ⟨y,hy,hyid⟩ | ⟨g,hg,he⟩ | ⟨row,stop,hrow,hstop,hcovers⟩
  · obtain ⟨-,z,hz,hzid,-,hto⟩:=hJ.traced.entries _ y hy
    obtain rfl:=hJ.traced.unique hz hx (hzid.trans hyid)
    have hopen : OpenTo t.store z y.startedAt := by
      refine hto.resolve_right ?_
      rintro ⟨g,hg,ho⟩
      obtain ⟨seen,rfl⟩:=hfree g hg
      exact ho
    obtain ⟨a,hload,rfl⟩:=Traced.listed_load hy
    refine ⟨a.startedAt,hopen.2.timesCharged,.inl ⟨?_,a,hload,hyid,rfl⟩⟩
    obtain ⟨sess,hsess,hnone⟩:=hopen.1
    unfold Meter.ended
    rw [hsess]
    simp [hnone]
  · obtain ⟨seen,rfl⟩:=hfree g hg
    exact he.elim
  · refine ⟨stop,hcovers.timesCharged,.inr ⟨?_,row,hrow,hstop⟩⟩
    unfold Meter.ended
    rw [hrow]
    simp [hstop]

end

def endedInTick : List Act :=
  call 0 9 (.prepareRelay "relay-1" "device-1" "viewer-1")++call 1 7 (.activateRelay "relay-1") ++
    [.env (minutes 30),.begin (.tick inTurn),.step 2 false,.begin (.endRelay "relay-1"),.step 3 false] ++
    List.replicate 4 (.step 2 false)++List.replicate 12 (.step 3 false)

theorem newMeter_noSessions : newMeter.NoSessions := ⟨rfl,rfl,rfl,rfl⟩

theorem endedInTick_charged_once : ∃ t, exec (step billing) (initial newMeter) endedInTick=some t ∧ ChargedOnce t := by
  obtain ⟨t,ht⟩ : ∃ t, exec (step billing) (initial newMeter) endedInTick=some t :=
    isSome_iff_exists.mp (by decide)
  exact ⟨t,ht,seconds_charged_once newMeter_noSessions (by decide) ht⟩

def activatedTwice : List Act :=
  call 0 9 (.prepareRelay "relay-1" "device-1" "viewer-1")++call 1 7 (.activateRelay "relay-1") ++
    call 2 7 (.prepareRelay "relay-1" "device-1" "viewer-1")++call 3 7 (.activateRelay "relay-1")

def settledTwice : List Act :=
  [.env (thirtyDays-minutes 20)]++call 0 9 (.prepareRelay "relay-1" "device-1" "viewer-1") ++
    call 1 7 (.activateRelay "relay-1")++[.env (minutes 30),.begin (.tick inTurn),.step 2 false] ++
    call 3 28 (.endRelay "relay-1")++List.replicate 15 (.step 2 false)

/-- A session is dropped in the one run, and ten minutes are charged twice in the other. -/
theorem sessions_dropped_and_charged_twice :
    (¬ ∀ (cfg : Config) (s₀ : Meter) (as : List Act) (t : System), s₀.NoSessions →
      exec (step cfg) (initial s₀) as=some t → ChargedOnce t) ∧
    (exec (step billing) (initial newMeter) settledTwice).map (fun t => (decide t.Idle,t.store.started.map Started.id,
      timesCharged (t.store.chargedTo 0) (thirtyDays-minutes 1)))=some (true,[0],2) := by
  refine ⟨?_,by decide⟩
  intro hclaim
  obtain ⟨t,ht⟩ : ∃ t, exec (step billing) (initial newMeter) activatedTwice=some t :=
    isSome_iff_exists.mp (by decide)
  have hview : (exec (step billing) (initial newMeter) activatedTwice).map (fun t => (decide t.Idle,
      t.store.started.head?,finalizations t 0,(t.store.active.load "relay-1").map ActiveSession.id)) =
      some (true,some ⟨0,"relay-1",minutes 10⟩,0,some 1) := by
    decide
  rw [ht] at hview
  simp only [map_some,some.injEq,Prod.mk.injEq] at hview
  obtain ⟨hidle,hfirst,hnot,hactive⟩:=hview
  obtain ⟨-,hplace⟩:=hclaim billing newMeter activatedTwice t newMeter_noSessions ht _ (mem_of_mem_head? hfirst)
  obtain ⟨stop,-,⟨-,a,ha,haid,-⟩ | ⟨hone,-⟩⟩:=hplace (of_decide_eq_true hidle)
  · rw [show t.store.active.load "relay-1" = some a from ha] at hactive
    exact absurd (haid.symm.trans (Option.some.inj hactive)) (by decide)
  · exact absurd (hnot.symm.trans hone) (by decide)

end BetterDesk.Billing
