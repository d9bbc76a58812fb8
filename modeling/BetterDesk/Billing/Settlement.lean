import BetterDesk.Billing.Pool

/-! # Calls that do not overlap (billing/service.go, billing/period_service.go) -/

namespace BetterDesk.Billing
open Db Programs Exec List Option Function Nat

variable {cfg : Config}

/-- A session that began in the month before can be settled: its contract is still in that
month, which has a total already unless nothing is included. -/
structure Timely (cal : Calendar) (s : Meter) (a : ActiveSession) : Prop where
  next : cal.periodAt s.now=cal.periodAt a.startedAt+1
  contract : ∀ row∈s.contracts a.contractID, row.currentPeriod=some (cal.periodAt a.startedAt)
  total : (s.totals a.contractID (cal.periodAt a.startedAt)).isSome=true ∨ a.remainingAtStart=0 ∨
    rawSeconds a.startedAt (cal.monthEnd (cal.periodAt a.startedAt))=0

def Crosses (cal : Calendar) (s : Meter) (a : ActiveSession) : Prop := cal.periodAt a.startedAt≠cal.periodAt s.now

/-- Sessions that cross into another month are settled in time, the ticker settles no two
of one contract, and none ends exactly with its month. -/
def Settles (cal : Calendar) (s : Meter) : Request → Prop
  | .endRelay relayUUID => ∀ a∈s.active.load relayUUID, Crosses cal s a →
    Timely cal s a ∧ cal.monthEnd (cal.periodAt a.startedAt) < s.now
  | .tick _ => (∀ a∈s.active.map Prod.snd, Crosses cal s a → Timely cal s a) ∧
    (s.active.map Prod.snd).Pairwise fun a b => Crosses cal s a → Crosses cal s b → a.contractID≠b.contractID
  | _ => True

instance (cal : Calendar) (s : Meter) (a : ActiveSession) : Decidable (Crosses cal s a) :=
  inferInstanceAs (Decidable (_≠_))

instance (cal : Calendar) (s : Meter) (a : ActiveSession) : Decidable (Timely cal s a) :=
  decidable_of_iff (cal.periodAt s.now=cal.periodAt a.startedAt+1 ∧
    (∀ row∈s.contracts a.contractID, row.currentPeriod=some (cal.periodAt a.startedAt)) ∧
    ((s.totals a.contractID (cal.periodAt a.startedAt)).isSome=true ∨ a.remainingAtStart=0 ∨
      rawSeconds a.startedAt (cal.monthEnd (cal.periodAt a.startedAt))=0))
    ⟨fun ⟨h,h',h''⟩ => ⟨h,h',h''⟩,fun ⟨h,h',h''⟩ => ⟨h,h',h''⟩⟩

instance (cal : Calendar) (s : Meter) : (r : Request) → Decidable (Settles cal s r)
  | .endRelay relayUUID => inferInstanceAs (Decidable (∀ a∈s.active.load relayUUID, Crosses cal s a →
      Timely cal s a ∧ cal.monthEnd (cal.periodAt a.startedAt) < s.now))
  | .tick _ => inferInstanceAs (Decidable ((∀ a∈s.active.map Prod.snd, Crosses cal s a → Timely cal s a) ∧
      (s.active.map Prod.snd).Pairwise fun a b => Crosses cal s a → Crosses cal s b → a.contractID≠b.contractID))
  | .checkConnection _ => isTrue trivial
  | .prepareRelay _ _ _ => isTrue trivial
  | .activateRelay _ => isTrue trivial

def Later (cal : Calendar) (s s' : Meter) : Prop := ∃ n, s'=tick s n ∧ cal.periodAt s'.now=cal.periodAt s.now

theorem tick_tick (s : Meter) (n m : ℕ) : tick (tick s n) m=tick s (n+m) := by
  simp only [tick,add_assoc]

theorem Later.refl (cal : Calendar) (s : Meter) : Later cal s s := ⟨0,rfl,rfl⟩

variable {a : ActiveSession} {row : ContractRow} {seg : Segment} {cal : Calendar} {t s' : Meter} {id : String}

theorem Later.trans (s t u : Meter) (h : Later cal s t) (h' : Later cal t u) : Later cal s u := by
  obtain ⟨n,rfl,hn⟩:=h
  obtain ⟨m,rfl,hm⟩:=h'
  exact ⟨n+m,tick_tick s n m,hm.trans hn⟩

theorem Later.contracts {s : Meter} (h : Later cal s s') : s'.contracts=s.contracts := by
  obtain ⟨n,rfl,-⟩:=h
  rfl

theorem Later.totals {s : Meter} (h : Later cal s s') : s'.totals=s.totals := by
  obtain ⟨n,rfl,-⟩:=h
  rfl

abbrev Leads (cfg : Config) {α : Type} (x : Prog α) (Q : α → Meter → Prop) (s : Meter) : Prop :=
  x.always run (Later cfg.cal) (fun _ _ => True) Q s

section Rules
variable {α β : Type} {s : Meter} {Q Q' : α → Meter → Prop}

theorem leads_pure {a : α} (h : ∀ s', Later cfg.cal s s' → Q a s') : Leads cfg (pure a) Q s := h

theorem leads_ask {op : Op} {Q : Res op → Meter → Prop}
    (h : ∀ s' s'', Later cfg.cal s s' → Later cfg.cal (perform s' op).2 s'' → Q (perform s' op).1 s'') :
    Leads cfg (ask op) Q s := fun s' hs _ s'' hs' => h s' s'' hs hs'

theorem leads_ask_bind {op : Op} {f : Res op → Prog α}
    (h : ∀ s', Later cfg.cal s s' → Leads cfg (f (perform s' op).1) Q (perform s' op).2) :
    Leads cfg (ask op >>= f) Q s := fun s' hs _ => h s' hs

theorem leads_bind {x : Prog β} {f : β → Prog α} (h : Leads cfg x (fun b s' => Leads cfg (f b) Q s') s) :
    Leads cfg (x >>= f) Q s := Prog.always_bind (Later.refl cfg.cal) h

theorem Leads.mono (hQ : ∀ a s, Q a s → Q' a s) {x : Prog α} (h : Leads cfg x Q s) : Leads cfg x Q' s :=
  Prog.always_mono hQ h

end Rules

/-- The month is the same, rows do not go away, and only the contract `id` is written. -/
structure Moved (cal : Calendar) (id : String) (s s' : Meter) : Prop where
  now : s.now ≤ s'.now
  month : cal.periodAt s'.now=cal.periodAt s.now
  sessions : s.sessions.length ≤ s'.sessions.length
  contracts : ∀ id, (s.contracts id).isSome=true → (s'.contracts id).isSome=true
  others : ∀ id', id'≠id → s'.contracts id'=s.contracts id' ∧ s'.totals id'=s.totals id'

namespace Moved
variable {cal : Calendar} {id : String} {s t u : Meter}

theorem refl (s : Meter) : Moved cal id s s := ⟨le_refl _,rfl,le_refl _,fun _ h => h,fun _ _ => ⟨rfl,rfl⟩⟩

theorem trans (h : Moved cal id s t) (h' : Moved cal id t u) : Moved cal id s u where
  now := h.now.trans h'.now
  month := h'.month.trans h.month
  sessions := h.sessions.trans h'.sessions
  contracts id hid := h'.contracts id (h.contracts id hid)
  others id' hne := ⟨(h'.others id' hne).1.trans (h.others id' hne).1,(h'.others id' hne).2.trans (h.others id' hne).2⟩

theorem later (h : Moved cal id s t) (hl : Later cal t u) : Moved cal id s u := by
  obtain ⟨n,rfl,hn⟩:=hl
  exact h.trans ⟨le_add_right _ _,hn,le_refl _,fun _ hid => hid,fun _ _ => ⟨rfl,rfl⟩⟩

theorem of_later (id : String) (h : Later cal s t) : Moved cal id s t := (refl s).later h

theorem setContract (s : Meter) {row : ContractRow} (hid : row.id=id) : Moved cal id s (s.setContract row) := by
  subst hid
  refine ⟨le_refl _,rfl,le_refl _,fun id hid => ?_,fun id hne => ⟨update_of_ne hne ..,rfl⟩⟩
  by_cases hne : id=row.id
  · subst hne
    show (update s.contracts row.id (some row) row.id).isSome=true
    rw [update_self]
    rfl
  · show (update s.contracts row.id (some row) id).isSome=true
    rw [update_of_ne hne]
    exact hid

theorem setTotal (s : Meter) (m : ℕ) (t : PeriodTotal) : Moved cal id s (s.setTotal id m t) :=
  ⟨le_refl _,rfl,le_refl _,fun _ hid => hid,fun _ hne => ⟨rfl,update_of_ne hne ..⟩⟩

end Moved

variable {undrawn unsummed uncharged : List Segment} {s : Meter}

theorem Kept.later (h : Kept cfg undrawn unsummed uncharged s) (hs : Later cfg.cal s s') :
    Kept cfg undrawn unsummed uncharged s' := by
  obtain ⟨n,rfl,-⟩:=hs
  exact h.tick n

theorem perform_renewed {stored : ContractRow} (h : s.contracts row.id=some stored) :
    (perform s (.updateBillingContract row none)).2=s.setContract row := by
  unfold perform
  dsimp only
  rw [h]
  simp only [map_none,toList_none,append_nil]
  rfl

theorem perform_drawn {stored : ContractRow} (h : s.contracts row.id=some stored) :
    (perform s (.updateBillingContract row (some seg))).2 =
      {s.setContract row with draws := s.draws++[Draw.mk seg row.currentPeriod]} := by
  unfold perform
  dsimp only
  rw [h]
  rfl

theorem snapshotPriorMonth_leads {pkg : Option Package} {limit : ℕ}
    (h : Kept cfg undrawn unsummed uncharged s) (hrow : s.contracts row.id=some row)
    (hpkg : pkg=s.packages row.packageID)
    (hseed : ∀ m, row.currentPeriod=some m → s.totals row.id m=none → included cfg.cal unsummed row.id m=0) :
    Leads cfg (snapshotPriorMonth row pkg limit) (fun _ s' => Kept cfg undrawn unsummed uncharged s' ∧
      Moved cfg.cal row.id s s' ∧ s'.contracts=s.contracts ∧ s'.packages=s.packages) s := by
  have hsame {s' : Meter} (hs : Later cfg.cal s s') : Kept cfg undrawn unsummed uncharged s' ∧
      Moved cfg.cal row.id s s' ∧ s'.contracts=s.contracts ∧ s'.packages=s.packages := by
    refine ⟨h.later hs,(Moved.refl s).later hs,?_⟩
    obtain ⟨n,rfl,-⟩:=hs
    exact ⟨rfl,rfl⟩
  have hwrite {s' s'' : Meter} {m : ℕ} {t : PeriodTotal} (hs : Later cfg.cal s s')
      (ht : t.includedMinutesUsed=s.usedTotal row.id m) (hs' : Later cfg.cal (s'.setTotal row.id m t) s'') :
      Kept cfg undrawn unsummed uncharged s'' ∧
        Moved cfg.cal row.id s s'' ∧ s''.contracts=s.contracts ∧ s''.packages=s.packages := by
    have hkept:=h.later hs
    have hmoved:=((((Moved.refl s).later hs).trans (.setTotal s' m t)).later hs' : Moved cfg.cal row.id s s'')
    obtain ⟨n,rfl,-⟩:=hs
    refine ⟨(hkept.setTotal ht).later hs',hmoved,?_⟩
    obtain ⟨n',rfl,-⟩:=hs'
    exact ⟨rfl,rfl⟩
  unfold snapshotPriorMonth
  cases hcur : row.currentPeriod with
  | none => exact leads_pure fun _ hs => hsame hs
  | some m =>
    refine leads_ask_bind fun s₁ hs₁ => ?_
    have htotals : s₁.totals=s.totals := by
      obtain ⟨n,rfl,-⟩:=hs₁
      rfl
    dsimp only [perform]
    rw [htotals]
    cases ht : s.totals row.id m with
    | none =>
      have hused : s.usedTotal row.id m=0 := by rw [Meter.usedTotal,ht]; rfl
      -- the pool is still full
      have hfull : ((pkg.map fun p => p.includedMinutes-row.remainingMinutes).getD 0)=0 := by
        cases hp : pkg with
        | none => rfl
        | some p =>
          have hpool:=h.pool row.id row p hrow (hpkg ▸ hp)
          have hsum:=h.summed row.id m
          rw [hcur] at hpool
          simp only [map_some,getD_some,hseed m hcur ht] at hpool hsum ⊢
          omega
      refine leads_ask fun s₂ s₃ hs₂ hs₃ => ?_
      exact hwrite (hs₁.trans _ _ _ hs₂) (hfull.trans hused.symm) hs₃
    | some t =>
      have hused : t.includedMinutesUsed=s.usedTotal row.id m := by rw [Meter.usedTotal,ht]; rfl
      dsimp only
      split
      · refine leads_ask fun s₂ s₃ hs₂ hs₃ => hwrite (hs₁.trans _ _ _ hs₂) ?_ hs₃
        exact hused
      · exact leads_pure fun s₂ hs₂ => hsame (hs₁.trans _ _ _ hs₂)

theorem ensureContractPeriod_leads (h : Kept cfg undrawn unsummed uncharged s)
    (hrow : s.contracts row.id=some row)
    (hseed : ∀ m, row.currentPeriod=some m → s.totals row.id m=none → included cfg.cal unsummed row.id m=0) :
    Leads cfg (ensureContractPeriod cfg row) (fun _ s' => Kept cfg undrawn unsummed uncharged s' ∧
      Moved cfg.cal row.id s s' ∧
      ∃ row', s'.contracts row.id=some row' ∧ row'.currentPeriod=some (cfg.cal.periodAt s.now)) s := by
  unfold ensureContractPeriod
  refine leads_ask_bind fun s₁ hs₁ => ?_
  dsimp only [perform]
  have h₁:=h.later hs₁
  have hmoved₁:=Moved.of_later row.id hs₁
  have hrow₁ : s₁.contracts row.id=some row := by
    obtain ⟨n,rfl,-⟩:=hs₁
    exact hrow
  have hmonth:=hmoved₁.month
  split
  · rename_i hcur
    refine leads_pure fun s₂ hs₂ => ⟨h₁.later hs₂,hmoved₁.later hs₂,row,?_,hmonth ▸ hcur⟩
    obtain ⟨n,rfl,-⟩:=hs₂
    exact hrow₁
  · rename_i hcur
    -- the month has gone on
    have hahead (p : ℕ) (hp : row.currentPeriod=some p) : p<cfg.cal.periodAt s₁.now := by
      have hle:=h₁.past row.id row p hrow₁ hp
      have hne : p≠cfg.cal.periodAt s₁.now := fun heq => hcur (heq ▸ hp)
      omega
    refine leads_ask_bind fun s₂ hs₂ => leads_bind ?_
    dsimp only [perform]
    have hsame₂ : s₂.contracts=s.contracts ∧ s₂.totals=s.totals := by
      obtain ⟨n,rfl,-⟩:=hs₁
      obtain ⟨n',rfl,-⟩:=hs₂
      exact ⟨rfl,rfl⟩
    refine (snapshotPriorMonth_leads (h₁.later hs₂) (hsame₂.1 ▸ hrow) rfl (by rw [hsame₂.2]; exact hseed)).mono ?_
    rintro _ s₃ ⟨h₃,hmoved₃,hcontracts,hpackages⟩
    refine leads_ask fun s₄ s₅ hs₄ hs₅ => ?_
    have hmoved₄:=((hmoved₁.later hs₂).trans hmoved₃).later hs₄
    have hrow₄ : s₄.contracts row.id=some row := by
      obtain ⟨n,rfl,-⟩:=hs₄
      exact (congrFun (hcontracts.trans hsame₂.1) row.id).trans hrow
    obtain ⟨limit,hlimit⟩ : ∃ limit, limit=((s₂.packages row.packageID).map Package.includedMinutes).getD
      row.remainingMinutes := ⟨_,rfl⟩
    rw [← hlimit] at hs₅
    have hfull (pkg : Package) (hpkg : s₄.packages row.packageID=some pkg) : limit=pkg.includedMinutes := by
      have hsame : s₄.packages=s₂.packages := by
        obtain ⟨n,rfl,-⟩:=hs₄
        exact hpackages
      rw [hlimit,← hsame,hpkg]
      rfl
    have hrenewed:=(h₃.later hs₄).renew hrow₄ (hmoved₄.month.trans hmonth.symm).ge hahead hfull
    obtain ⟨renewed,hrow'⟩ : ∃ renewed, renewed={row with
      currentPeriod := some (cfg.cal.periodAt s₁.now)
      remainingMinutes := limit} := ⟨_,rfl⟩
    rw [← hrow'] at hs₅ hrenewed
    have hid : renewed.id=row.id := by rw [hrow']
    rw [perform_renewed (hid ▸ hrow₄)] at hs₅
    refine ⟨hrenewed.later hs₅,(hmoved₄.trans (.setContract s₄ hid)).later hs₅,renewed,?_,?_⟩
    · rw [hs₅.contracts,← hid]
      exact update_self ..
    · rw [hrow',hmonth]

theorem roundMinForContract_leads (contractID : String) :
    Leads cfg (roundMinForContract cfg contractID) (fun _ s' => Later cfg.cal s s') s := by
  unfold roundMinForContract
  refine leads_ask_bind fun s₁ hs₁ => ?_
  dsimp only [perform]
  split
  · exact leads_pure fun s₂ hs₂ => hs₁.trans _ _ _ hs₂
  · refine leads_ask_bind fun s₂ hs₂ => leads_pure fun s₃ hs₃ => ?_
    exact (hs₁.trans _ _ _ hs₂).trans _ _ _ hs₃

theorem settleContract_leads (h : Kept cfg [] [] [] s)
    (hid : seg.contractID=a.contractID) (hrow : s.contracts a.contractID=some row)
    (hmonth : row.currentPeriod=some (cfg.cal.periodAt seg.start))
    (hstop : seg.stop≤cfg.cal.monthEnd (cfg.cal.periodAt seg.start))
    (htotal : (s.totals a.contractID (cfg.cal.periodAt seg.start)).isSome=true ∨ seg.included=0) :
    Leads cfg (settleContract cfg a seg)
      (fun _ s' => Kept cfg [] [seg] [seg] s' ∧ Moved cfg.cal a.contractID s s') s := by
  have hown:=h.own _ _ hrow
  obtain ⟨charged,hcharged⟩ : ∃ charged, charged={row with remainingMinutes := row.remainingMinutes-seg.included} :=
    ⟨_,rfl⟩
  have hcid : charged.id=a.contractID := by rw [hcharged,← hown]
  have hcmonth : charged.currentPeriod=some (cfg.cal.periodAt seg.start) := by rw [hcharged,← hmonth]
  unfold settleContract
  refine leads_ask_bind fun s₁ hs₁ => ?_
  dsimp only [perform]
  rw [hs₁.contracts,hrow]
  dsimp only
  refine leads_ask_bind fun s₂ hs₂ => ?_
  dsimp only [perform]
  rw [← hcharged]
  refine leads_ask_bind fun s₃ hs₃ => leads_bind ?_
  have hs:=(hs₁.trans _ _ _ hs₂).trans _ _ _ hs₃
  have h₃:=h.later hs
  have hrow₃ : s₃.contracts charged.id=some row := by rw [hs.contracts,hcid,hrow]
  have hdrawn : Kept cfg [] [seg] [seg] (perform s₃ (.updateBillingContract charged (some seg))).2 := by
    rw [perform_drawn hrow₃,hcharged]
    refine h₃.draw ?_ (hid.trans hown.symm) hstop hmonth ?_
    · rw [← hrow₃,hcharged]
    · have hbalance:=h₃.balance
      simp only [append_nil] at hbalance ⊢
      rw [hbalance]
  have hmoved : Moved cfg.cal a.contractID s (perform s₃ (.updateBillingContract charged (some seg))).2 := by
    rw [perform_drawn hrow₃]
    have hcontract : Moved cfg.cal a.contractID s₃ (s₃.setContract charged) := .setContract s₃ hcid
    exact ((Moved.refl s).later hs).trans {hcontract with}
  have hwritten : (perform s₃ (.updateBillingContract charged (some seg))).2.contracts charged.id=some charged := by
    rw [perform_drawn hrow₃]
    exact update_self ..
  have htotals : (perform s₃ (.updateBillingContract charged (some seg))).2.totals=s.totals := by
    rw [perform_drawn hrow₃,← hs.totals]
    rfl
  refine (ensureContractPeriod_leads hdrawn hwritten ?_).mono ?_
  · intro m hm hnone
    rw [htotals,hcid] at hnone
    obtain rfl : cfg.cal.periodAt seg.start=m := Option.some.inj (hcmonth.symm.trans hm)
    rcases htotal with htotal | hzero
    · rw [hnone] at htotal
      cases htotal
    · rw [hcid,← hid,included_self,hzero]
  · rintro _ s₄ ⟨h₄,hmoved₄,-⟩
    rw [hcid] at hmoved₄
    refine leads_ask_bind fun s₅ hs₅ => leads_pure fun s₆ hs₆ => ?_
    exact ⟨(h₄.later hs₅).later hs₆,((hmoved.trans hmoved₄).later hs₅).later hs₆⟩

theorem applyUsageToPeriod_leads {undrawn uncharged : List Segment} {packageID : String} {start overage limit : ℕ}
    (h : Kept cfg undrawn [seg] uncharged s) (hstart : start=seg.start) :
    Leads cfg (applyUsageToPeriod cfg seg.contractID packageID start seg.included overage limit)
      (fun _ s' => Kept cfg undrawn [] uncharged s' ∧ Moved cfg.cal seg.contractID s s') s := by
  subst hstart
  refine leads_ask fun s₁ s₂ hs₁ hs₂ => ?_
  dsimp only [perform] at hs₂
  refine ⟨((h.later hs₁).addUsage ?_).later hs₂,(((Moved.refl s).later hs₁).trans (.setTotal s₁ _ _)).later hs₂⟩
  unfold Meter.usedTotal PeriodTotal.add
  cases s₁.totals seg.contractID (cfg.cal.periodAt seg.start) with
  | none => exact (zero_add _).symm
  | some t => rfl

structure Valid (s : Meter) (a : ActiveSession) : Prop where
  session : a.id < s.sessions.length
  contract : (s.contracts a.contractID).isSome=true

theorem Valid.moved (h : Valid s a) (hm : Moved cfg.cal id s t) : Valid t a :=
  ⟨h.session.trans_le hm.sessions,hm.contracts _ h.contract⟩

theorem Timely.frame (h : Timely cfg.cal s a) (hmonth : cfg.cal.periodAt t.now=cfg.cal.periodAt s.now)
    (hsame : t.contracts a.contractID=s.contracts a.contractID ∧ t.totals a.contractID=s.totals a.contractID) :
    Timely cfg.cal t a := ⟨hmonth.trans h.next,hsame.1 ▸ h.contract,hsame.2 ▸ h.total⟩

theorem Moved.charged {i : ℕ} {row : BillingSession}
    (h : Moved cfg.cal id s t) :
    Moved cfg.cal id s {t with
      sessions := t.sessions.set i row
      charges := t.charges++[seg]} := by
  refine {h with sessions := ?_}
  show s.sessions.length≤(t.sessions.set i row).length
  rw [length_set]
  exact h.sessions

theorem Moved.updateActive {relayUUID : String} {f : ActiveSession → ActiveSession}
    (h : Moved cfg.cal id s t) : Moved cfg.cal id s (t.updateActive relayUUID f) := by
  unfold Meter.updateActive
  split
  · exact h
  · exact {h with}

theorem settleSegment_leads (h : Kept cfg [] [] [] s) (hvalid : Valid s a) (htimely : Timely cfg.cal s a) :
    Leads cfg (settleSegment cfg a (cfg.cal.monthEnd (cfg.cal.periodAt a.startedAt)))
      (fun a' s' => Kept cfg [] [] [] s' ∧ Moved cfg.cal a.contractID s s' ∧
        ∃ remaining, a'=a.synced (cfg.cal.monthEnd (cfg.cal.periodAt a.startedAt)) remaining) s := by
  obtain ⟨row,hrow⟩:=isSome_iff_exists.mp hvalid.contract
  unfold settleSegment
  refine leads_bind ((roundMinForContract_leads a.contractID).mono ?_)
  intro roundMin s₁ hs₁
  dsimp only
  obtain ⟨billedMin,hbilled⟩ : ∃ billedMin, billedMin =
      roundUpMinutes (rawSeconds a.startedAt (cfg.cal.monthEnd (cfg.cal.periodAt a.startedAt))) roundMin := ⟨_,rfl⟩
  rw [← hbilled]
  obtain ⟨seg,hseg⟩ : ∃ seg : Segment, seg=⟨a.id,a.contractID,a.startedAt,
      cfg.cal.monthEnd (cfg.cal.periodAt a.startedAt),min billedMin a.remainingAtStart⟩ := ⟨_,rfl⟩
  have hzero : (s.totals a.contractID (cfg.cal.periodAt seg.start)).isSome=true ∨ seg.included=0 := by
    rw [hseg]
    refine htimely.total.imp_right ?_
    rintro (hrem | hraw)
    · exact min_eq_zero_iff.mpr (.inr hrem)
    · rw [hbilled,hraw]
      exact min_eq_zero_iff.mpr (.inl (roundUpMinutes_zero roundMin))
  have hsid : seg.session=a.id := by rw [hseg]
  have hcid : seg.contractID=a.contractID := by rw [hseg]
  have hstart : a.startedAt=seg.start := by rw [hseg]
  have hincluded : min billedMin a.remainingAtStart=seg.included := by rw [hseg]
  rw [← hseg]
  have hvalid₁:=hvalid.moved (Moved.of_later a.contractID hs₁)
  refine leads_bind ((settleContract_leads (h.later hs₁) hcid (hs₁.contracts ▸ hrow) ?_ ?_ (hs₁.totals ▸ hzero)).mono ?_)
  · rw [← hstart]
    exact htimely.contract row hrow
  · rw [hseg]
  rintro ⟨packageID,limitSnap,remaining⟩ s₂ ⟨h₂,hmoved₂⟩
  dsimp only
  rw [hincluded,← hcid,← hsid]
  refine leads_bind ((applyUsageToPeriod_leads h₂ hstart).mono ?_)
  rintro _ s₃ ⟨h₃,hmoved₃⟩
  rw [← hcid] at hmoved₂
  refine leads_ask_bind fun s₄ hs₄ => ?_
  have h₄:=h₃.later hs₄
  have hmoved₄ : Moved cfg.cal seg.contractID s s₄ :=
    ((((Moved.refl s).later hs₁).trans hmoved₂).trans hmoved₃).later hs₄
  obtain ⟨sess,hsess⟩ : ∃ sess, s₄.sessions[seg.session]?=some sess :=
    ⟨_,List.getElem?_eq_getElem (hsid ▸ (hvalid.moved hmoved₄).session)⟩
  dsimp only [perform]
  rw [hsess]
  dsimp only
  refine leads_ask_bind fun s₅ hs₅ => ?_
  dsimp only [perform]
  refine leads_ask_bind fun s₆ hs₆ => leads_pure fun s₇ hs₇ => ?_
  dsimp only [perform] at hs₇
  have h₅:=h₄.later hs₅
  have hbalance : s₅.charges++[seg]++[]=s₅.draws.map Draw.segment++[] := by
    simpa only [append_nil] using h₅.balance
  refine ⟨(((h₅.charge _ hbalance).later hs₆).updateActive a.relayUUID ?_).later hs₇,?_,remaining,rfl⟩
  · exact fun b => ⟨rfl,rfl⟩
  · exact ((hmoved₄.later hs₅).charged.later hs₆).updateActive.later hs₇

theorem settleCrossingMonth_leads (h : Kept cfg [] [] [] s) (hvalid : Valid s a)
    (htimely : Crosses cfg.cal s a → Timely cfg.cal s a) :
    Leads cfg (settleCrossingMonth cfg a) (fun a' s' => Kept cfg [] [] [] s' ∧
      Moved cfg.cal a.contractID s s' ∧ a'.id=a.id ∧ a'.contractID=a.contractID ∧
      ((Crosses cfg.cal s a → cfg.cal.monthEnd (cfg.cal.periodAt a.startedAt) < s.now) →
        cfg.cal.periodAt a'.startedAt=cfg.cal.periodAt s.now)) s := by
  unfold settleCrossingMonth
  refine leads_ask_bind fun s₁ hs₁ => ?_
  dsimp only [perform]
  have hmoved₁:=Moved.of_later a.contractID hs₁
  have hmonth:=hmoved₁.month
  by_cases hcross : Crosses cfg.cal s a
  · have ht:=htimely hcross
    have hfuel : cfg.cal.periodAt s₁.now-cfg.cal.periodAt a.startedAt=1 := by
      have hnext:=ht.next
      omega
    rw [hfuel]
    unfold settleMonths
    cases hsplit : cfg.cal.splitAtMonthBoundary a.startedAt s₁.now with
    | none =>
      refine leads_pure fun s₂ hs₂ => ⟨(h.later hs₁).later hs₂,hmoved₁.later hs₂,rfl,rfl,fun hend => ?_⟩
      -- the boundary has passed, so that there was a split
      have hlt:=hend hcross
      have hnow:=hmoved₁.now
      rcases cfg.cal.split_none hsplit with hsame | hle
      · exact hsame.trans hmonth
      · omega
    | some boundary =>
      obtain ⟨rfl,-,-⟩:=cfg.cal.split_some hsplit
      have ht₁:=ht.frame hmonth ⟨congrFun hs₁.contracts _,congrFun hs₁.totals _⟩
      refine leads_bind ((settleSegment_leads (h.later hs₁) (hvalid.moved hmoved₁) ht₁).mono ?_)
      rintro a' s₂ ⟨h₂,hmoved₂,remaining,rfl⟩
      refine leads_pure fun s₃ hs₃ => ⟨h₂.later hs₃,(hmoved₁.trans hmoved₂).later hs₃,rfl,rfl,fun _ => ?_⟩
      show cfg.cal.periodAt (cfg.cal.monthEnd (cfg.cal.periodAt a.startedAt))=cfg.cal.periodAt s.now
      rw [Calendar.periodAt_monthEnd,ht.next]
  · have hsame : cfg.cal.periodAt a.startedAt=cfg.cal.periodAt s.now := not_not.mp hcross
    rw [hsame,hmonth,Nat.sub_self]
    exact leads_pure fun s₂ hs₂ => ⟨(h.later hs₁).later hs₂,hmoved₁.later hs₂,rfl,rfl,fun _ => hsame⟩

theorem finalizeContract_leads {overageMin : ℕ} (h : Kept cfg [seg] [] [] s)
    (hvalid : Valid s a) (hid : seg.contractID=a.contractID) (hstart : a.startedAt=seg.start)
    (hmonth : cfg.cal.periodAt seg.start=cfg.cal.periodAt s.now) (hstop : seg.stop ≤ s.now) :
    Leads cfg (finalizeContract cfg a seg overageMin) (fun _ s' => Kept cfg [] [] [] s') s := by
  obtain ⟨row,hrow⟩:=isSome_iff_exists.mp hvalid.contract
  have hown:=h.own _ _ hrow
  unfold finalizeContract
  refine leads_ask_bind fun s₁ hs₁ => ?_
  dsimp only [perform]
  rw [hs₁.contracts,hrow]
  dsimp only
  have hmonth₁:=(Moved.of_later row.id hs₁).month
  refine leads_bind ((ensureContractPeriod_leads (h.later hs₁) (by rw [hs₁.contracts,hown]; exact hrow) ?_).mono ?_)
  · exact fun m _ _ => included_nil
  rintro _ s₂ ⟨h₂,hmoved₂,renewed,hrenewed,hcur⟩
  refine leads_ask_bind fun s₃ hs₃ => ?_
  dsimp only [perform]
  rw [← hown,hs₃.contracts,hrenewed]
  dsimp only
  have hown₂:=h₂.own _ _ hrenewed
  obtain ⟨charged,hcharged⟩ : ∃ charged, charged =
      {renewed with remainingMinutes := renewed.remainingMinutes-seg.included} := ⟨_,rfl⟩
  rw [← hcharged]
  refine leads_ask_bind fun s₄ hs₄ => leads_ask_bind fun s₅ hs₅ => ?_
  have hrow₄ : s₄.contracts charged.id=some renewed := by
    rw [(hs₃.trans _ _ _ hs₄).contracts,hcharged,← hrenewed,hown₂]
  have hdrawn : Kept cfg [] [seg] [] (perform s₄ (.updateBillingContract charged (some seg))).2 := by
    have h₄:=(h₂.later hs₃).later hs₄
    have hbalance : s₄.charges++[]=s₄.draws.map Draw.segment++[seg]++[] := by
      simpa only [append_nil] using h₄.balance
    rw [perform_drawn hrow₄,hcharged]
    refine h₄.draw ?_ (hid.trans (hown.symm.trans hown₂.symm)) ?_ (hcur.trans ?_) hbalance
    · rw [← hrow₄,hcharged]
    · have hend:=cfg.cal.lt_monthEnd s.now
      rw [hmonth]
      omega
    · rw [hmonth₁,hmonth]
  dsimp only [perform]
  have hseg : renewed.id=seg.contractID := hown₂.trans (hown.trans hid.symm)
  rw [hseg]
  refine (applyUsageToPeriod_leads (hdrawn.later hs₅) hstart).mono ?_
  exact fun _ s₆ h₆ => h₆.1

theorem finalizeSession_leads (h : Kept cfg [] [] [] s) (hvalid : Valid s a) (htimely : Crosses cfg.cal s a →
      Timely cfg.cal s a ∧ cfg.cal.monthEnd (cfg.cal.periodAt a.startedAt) < s.now) :
    Leads cfg (finalizeSession cfg a) (fun _ s' => Kept cfg [] [] [] s') s := by
  unfold finalizeSession
  refine leads_bind ((settleCrossingMonth_leads h hvalid fun hcross => (htimely hcross).1).mono ?_)
  rintro b s₁ ⟨h₁,hmoved₁,hbid,hbcontract,hperiod⟩
  have hmonth:=hperiod fun hcross => (htimely hcross).2
  have hvalid₁ : Valid s₁ b := ⟨hbid ▸ (hvalid.moved hmoved₁).session,hbcontract ▸ (hvalid.moved hmoved₁).contract⟩
  refine leads_ask_bind fun s₂ hs₂ => leads_bind ((roundMinForContract_leads b.contractID).mono ?_)
  dsimp only [perform]
  intro roundMin s₃ hs₃
  obtain ⟨billedMin,hbilled⟩ : ∃ billedMin, billedMin=roundUpMinutes (rawSeconds b.startedAt s₂.now) roundMin :=
    ⟨_,rfl⟩
  rw [← hbilled]
  obtain ⟨seg,hseg⟩ : ∃ seg : Segment, seg =
      ⟨b.id,b.contractID,b.startedAt,s₂.now,min billedMin b.remainingAtStart⟩ := ⟨_,rfl⟩
  have hsid : seg.session=b.id := by rw [hseg]
  have hincluded : min billedMin b.remainingAtStart=seg.included := by rw [hseg]
  rw [← hseg,hincluded]
  have hl₃:=hs₂.trans _ _ _ hs₃
  refine leads_ask_bind fun s₄ hs₄ => ?_
  have hl₄:=hl₃.trans _ _ _ hs₄
  have hmoved₄:=Moved.of_later a.contractID hl₄
  have hvalid₄:=hvalid₁.moved hmoved₄
  obtain ⟨sess,hsess⟩ : ∃ sess, s₄.sessions[b.id]?=some sess := ⟨_,List.getElem?_eq_getElem hvalid₄.session⟩
  dsimp only [perform]
  rw [hsess]
  dsimp only
  refine leads_ask_bind fun s₅ hs₅ => ?_
  have hl₅:=hl₄.trans _ _ _ hs₅
  have h₅:=h₁.later hl₅
  have hmoved₅:=Moved.of_later a.contractID hl₅
  have hbalance : s₅.charges++[seg]++[]=s₅.draws.map Draw.segment++[seg] := by
    have hb:=h₅.balance
    simp only [append_nil] at hb ⊢
    rw [hb]
  dsimp only [perform]
  rw [← hsid]
  refine finalizeContract_leads (h₅.charge _ hbalance) (hvalid₁.moved hmoved₅.charged) ?_ ?_ ?_ ?_
  · rw [hseg]
  · rw [hseg]
  · show cfg.cal.periodAt seg.start=cfg.cal.periodAt s₅.now
    rw [hmoved₅.month,hmoved₁.month,← hmonth,hseg]
  · show seg.stop ≤ s₅.now
    obtain ⟨n,rfl,-⟩:=hs₅
    obtain ⟨n',rfl,-⟩:=hs₄
    obtain ⟨n'',rfl,-⟩:=hs₃
    rw [hseg]
    show s₂.now ≤ s₂.now+n''+n'+n
    omega

theorem endRelay_leads (h : Kept cfg [] [] [] s) {relayUUID : String}
    (hsettles : Settles cfg.cal s (.endRelay relayUUID)) :
    Leads cfg (endRelay cfg relayUUID) (fun _ s' => Kept cfg [] [] [] s') s := by
  unfold endRelay
  split
  · exact leads_pure fun s₁ hs₁ => h.later hs₁
  · refine leads_ask_bind fun s₁ hs₁ => ?_
    have h₁:=h.later hs₁
    have hload : s₁.active.load relayUUID=s.active.load relayUUID := by
      obtain ⟨n,rfl,-⟩:=hs₁
      rfl
    have htaken : Kept cfg [] [] [] {s₁ with active := s₁.active.delete relayUUID} :=
      h₁.maps s₁.pending s₁.started fun x hx => h₁.active x (SyncMap.mem_delete hx)
    dsimp only [perform]
    rw [hload]
    cases ha : s.active.load relayUUID with
    | none => exact leads_pure fun s₂ hs₂ => htaken.later hs₂
    | some a =>
      have hvalid : Valid s a := ⟨(h.active _ (SyncMap.mem_of_load ha)).1,(h.active _ (SyncMap.mem_of_load ha)).2⟩
      have hvalid₁ : Valid s₁ a := hvalid.moved (Moved.of_later a.contractID hs₁)
      refine finalizeSession_leads htaken ⟨hvalid₁.session,hvalid₁.contract⟩ ?_
      intro hcross
      obtain ⟨n,rfl,hn⟩:=hs₁
      have hcross₀ : Crosses cfg.cal s a := fun hsame => hcross (hsame.trans hn.symm)
      obtain ⟨ht,hend⟩:=hsettles a (by rw [ha]; rfl) hcross₀
      exact ⟨⟨hn.trans ht.next,ht.contract,ht.total⟩,hend.trans_le (le_add_right _ _)⟩

@[simp] theorem updateActive_contracts (s : Meter) (relayUUID : String) (f : ActiveSession → ActiveSession) :
    (s.updateActive relayUUID f).contracts=s.contracts := by
  unfold Meter.updateActive
  split <;> rfl

@[simp] theorem updateActive_totals (s : Meter) (relayUUID : String) (f : ActiveSession → ActiveSession) :
    (s.updateActive relayUUID f).totals=s.totals := by
  unfold Meter.updateActive
  split <;> rfl

theorem updateActiveProgress_leads (h : Kept cfg [] [] [] s) (a : ActiveSession) (id : String) :
    Leads cfg (updateActiveProgress cfg a) (fun _ s' => Kept cfg [] [] [] s' ∧
      Moved cfg.cal id s s' ∧ s'.contracts=s.contracts ∧ s'.totals=s.totals) s := by
  unfold updateActiveProgress
  refine leads_ask_bind fun s₁ hs₁ => leads_ask fun s₂ s₃ hs₂ hs₃ => ?_
  dsimp only [perform] at hs₂ hs₃
  have hl:=hs₁.trans _ _ _ hs₂
  refine ⟨((h.later hl).updateActive a.relayUUID ?_).later hs₃,?_,?_,?_⟩
  · exact fun b => ⟨rfl,rfl⟩
  · exact ((Moved.refl s).later hl).updateActive.later hs₃
  · rw [hs₃.contracts,updateActive_contracts,hl.contracts]
  · rw [hs₃.totals,updateActive_totals,hl.totals]

theorem tickCopies_leads {copies : List ActiveSession} (h : Kept cfg [] [] [] s) (hvalid : ∀ a∈copies,Valid s a)
    (htimely : ∀ a∈copies,Crosses cfg.cal s a → Timely cfg.cal s a)
    (hapart : copies.Pairwise fun a b => Crosses cfg.cal s a → Crosses cfg.cal s b → a.contractID≠b.contractID) :
    Leads cfg (tickCopies cfg copies) (fun _ s' => Kept cfg [] [] [] s') s := by
  induction copies generalizing s with
  | nil => exact leads_pure fun s₁ hs₁ => h.later hs₁
  | cons a rest ih =>
    obtain ⟨hhead,hrest⟩:=pairwise_cons.mp hapart
    have hrests {t : Meter} (hkept : Kept cfg [] [] [] t) (hmoved : Moved cfg.cal a.contractID s t)
        (hsame : ∀ b∈rest,Crosses cfg.cal s b → Timely cfg.cal s b → Timely cfg.cal t b) :
        Leads cfg (tickCopies cfg rest) (fun _ s' => Kept cfg [] [] [] s') t := by
      have hback (b : ActiveSession) (hb : Crosses cfg.cal t b) : Crosses cfg.cal s b :=
        fun heq => hb (heq.trans hmoved.month.symm)
      refine ih hkept (fun b hb => (hvalid b (mem_cons_of_mem a hb)).moved hmoved) ?_ ?_
      · intro b hb hcross
        exact hsame b hb (hback b hcross) (htimely b (mem_cons_of_mem a hb) (hback b hcross))
      · exact hrest.imp fun hab ha hb => hab (hback _ ha) (hback _ hb)
    unfold tickCopies
    by_cases ha : Crosses cfg.cal s a
    · refine leads_bind ((settleCrossingMonth_leads h (hvalid a mem_cons_self)
        (htimely a mem_cons_self)).mono ?_)
      rintro b s₁ ⟨h₁,hmoved₁,-,-,-⟩
      refine leads_bind ((updateActiveProgress_leads h₁ b a.contractID).mono ?_)
      rintro _ s₂ ⟨h₂,hmoved₂,-,-⟩
      have hmoved:=hmoved₁.trans hmoved₂
      exact hrests h₂ hmoved fun b hb hcross ht => ht.frame hmoved.month (hmoved.others _ (hhead b hb ha hcross).symm)
    · -- a copy that is in the current month writes no contract
      have hsame : cfg.cal.periodAt a.startedAt=cfg.cal.periodAt s.now := not_not.mp ha
      unfold settleCrossingMonth
      refine leads_bind (leads_ask_bind fun s₁ hs₁ => ?_)
      dsimp only [perform]
      have hmonth:=(Moved.of_later a.contractID hs₁).month
      rw [hsame,hmonth,Nat.sub_self]
      refine leads_pure fun s₂ hs₂ => ?_
      have hl:=hs₁.trans _ _ _ hs₂
      refine leads_bind ((updateActiveProgress_leads (h.later hl) a a.contractID).mono ?_)
      rintro _ s₃ ⟨h₃,hmoved₃,hcontracts,htotals⟩
      have hmoved:=((Moved.refl s).later hl).trans hmoved₃
      refine hrests h₃ hmoved fun b _ _ ht => ht.frame hmoved.month ⟨?_,?_⟩
      · rw [hcontracts,hl.contracts]
      · rw [htotals,hl.totals]

theorem tick_leads (h : Kept cfg [] [] [] s) {order : MapOrder} (hsettles : Settles cfg.cal s (.tick order)) :
    Leads cfg (handle cfg (.tick order)) (fun _ s' => Kept cfg [] [] [] s') s := by
  obtain ⟨htimely,hapart⟩:=hsettles
  show Leads cfg (tickActive cfg order >>= fun _ => ask .sweepStalePending) _ s
  unfold tickActive
  refine leads_bind (leads_ask_bind fun s₁ hs₁ => ?_)
  dsimp only [perform]
  have hactive : s₁.active=s.active := by
    obtain ⟨n,rfl,-⟩:=hs₁
    rfl
  have hmoved:=Moved.of_later "" hs₁
  have hperm:=order.perm (s.active.map Prod.snd)
  have hcross (a : ActiveSession) (ha : Crosses cfg.cal s₁ a) : Crosses cfg.cal s a :=
    fun heq => ha (heq.trans hmoved.month.symm)
  rw [hactive]
  refine (tickCopies_leads (h.later hs₁) ?_ ?_ ?_).mono ?_
  · intro a ha
    obtain ⟨x,hx,rfl⟩:=mem_map.mp (hperm.mem_iff.mp ha)
    exact Valid.moved ⟨(h.active x hx).1,(h.active x hx).2⟩ hmoved
  · intro a ha hc
    have ht:=htimely a (hperm.mem_iff.mp ha) (hcross a hc)
    exact ht.frame hmoved.month ⟨congrFun hs₁.contracts _,congrFun hs₁.totals _⟩
  · have hsym : (order.apply (s.active.map Prod.snd)).Pairwise
        fun a b => Crosses cfg.cal s a → Crosses cfg.cal s b → a.contractID≠b.contractID :=
      (hperm.pairwise_iff fun hab hb ha => (hab ha hb).symm).mpr hapart
    exact hsym.imp fun hab ha hb => hab (hcross _ ha) (hcross _ hb)
  · intro _ s₂ h₂
    refine leads_ask fun s₃ s₄ hs₃ hs₄ => ?_
    have h₃:=h₂.later hs₃
    exact (h₃.maps _ s₃.started h₃.active).later hs₄

theorem checkConnection_leads (h : Kept cfg [] [] [] s) (deviceID : PeerID) :
    Leads cfg (checkConnection cfg deviceID) (fun _ s' => Kept cfg [] [] [] s') s := by
  unfold checkConnection
  refine leads_ask_bind fun s₁ hs₁ => ?_
  have h₁:=h.later hs₁
  have hstored (c : Contract) (row : ContractRow) (orgID : OrgID) (hres : s₁.resolve deviceID=(some (c,row),orgID)) :
      s₁.contracts row.id=some row := by
    unfold Meter.resolve at hres
    split at hres
    · cases hres
    · cases hres
    · rename_i c' orgID' _
      simp only [Prod.mk.injEq,map_eq_some_iff] at hres
      obtain ⟨⟨row',hrow',-,rfl⟩,-⟩:=hres
      rw [h₁.own _ _ hrow']
      exact hrow'
  dsimp only [perform]
  split
  · exact leads_pure fun s₂ hs₂ => h₁.later hs₂
  · rename_i c row orgID hres
    refine leads_bind ((ensureContractPeriod_leads h₁ (hstored c row orgID hres) fun m _ _ => included_nil).mono ?_)
    rintro _ s₂ ⟨h₂,-⟩
    refine leads_ask_bind fun s₃ hs₃ => ?_
    have h₃:=h₂.later hs₃
    dsimp only [perform]
    split
    · exact leads_pure fun s₄ hs₄ => h₃.later hs₄
    · refine leads_ask_bind fun s₄ hs₄ => ?_
      have h₄:=h₃.later hs₄
      split
      · exact leads_pure fun s₅ hs₅ => h₄.later hs₅
      · split <;> exact leads_pure fun s₅ hs₅ => h₄.later hs₅

theorem prepareRelay_leads (h : Kept cfg [] [] [] s) (relayUUID : String) (deviceID operatorID : PeerID) :
    Leads cfg (prepareRelay cfg relayUUID deviceID operatorID) (fun _ s' => Kept cfg [] [] [] s') s := by
  unfold prepareRelay
  split
  · exact leads_pure fun s₁ hs₁ => h.later hs₁
  · refine leads_bind ((checkConnection_leads h deviceID).mono ?_)
    intro check s₁ h₁
    split
    · exact leads_pure fun s₂ hs₂ => h₁.later hs₂
    · split
      · exact leads_pure fun s₂ hs₂ => h₁.later hs₂
      · refine leads_ask_bind fun s₂ hs₂ => ?_
        have h₂:=h₁.later hs₂
        dsimp only [perform]
        split
        · exact leads_pure fun s₃ hs₃ => h₂.later hs₃
        · refine leads_ask_bind fun s₃ hs₃ => leads_ask_bind fun s₄ hs₄ => leads_pure fun s₅ hs₅ => ?_
          have h₄:=(h₂.later hs₃).later hs₄
          exact (h₄.maps _ s₄.started h₄.active).later hs₅

theorem activateRelay_leads (h : Kept cfg [] [] [] s) (relayUUID : String) :
    Leads cfg (activateRelay cfg relayUUID) (fun _ s' => Kept cfg [] [] [] s') s := by
  unfold activateRelay
  split
  · exact leads_pure fun s₁ hs₁ => h.later hs₁
  · refine leads_ask_bind fun s₁ hs₁ => ?_
    have h₁:=h.later hs₁
    have htaken : Kept cfg [] [] [] {s₁ with pending := s₁.pending.delete relayUUID} :=
      h₁.maps _ s₁.started h₁.active
    dsimp only [perform]
    split
    · exact leads_pure fun s₂ hs₂ => htaken.later hs₂
    · rename_i p _
      refine leads_ask_bind fun s₂ hs₂ => ?_
      have h₂:=htaken.later hs₂
      dsimp only [perform]
      split
      · exact leads_pure fun s₃ hs₃ => h₂.later hs₃
      · rename_i row hrow
        have hown:=h₂.own _ _ hrow
        refine leads_bind ((ensureContractPeriod_leads h₂ (hown ▸ hrow) fun m _ _ => included_nil).mono ?_)
        rintro _ s₃ ⟨h₃,-⟩
        refine leads_ask_bind fun s₄ hs₄ => ?_
        have h₄:=h₃.later hs₄
        dsimp only [perform]
        split
        · exact leads_pure fun s₅ hs₅ => h₄.later hs₅
        · rename_i current hcurrent
          refine leads_ask_bind fun s₅ hs₅ => leads_ask_bind fun s₆ hs₆ => ?_
          dsimp only [perform]
          dsimp only [perform] at hs₅ hs₆
          refine leads_ask fun s₇ s₈ hs₇ hs₈ => ?_
          dsimp only [perform] at hs₇ hs₈
          have h₇:=(((h₄.later hs₅).later hs₆).create _).later hs₇
          refine (h₇.maps s₇.pending _ ?_).later hs₈
          intro x hx
          rcases SyncMap.mem_store hx with rfl | hx
          · refine ⟨?_,?_⟩
            · obtain ⟨n,rfl,-⟩:=hs₇
              show s₆.sessions.length<(s₆.sessions++[_]).length
              rw [length_append]
              exact lt_succ_self _
            · rw [hs₇.contracts]
              show (s₆.contracts p.contractID).isSome=true
              rw [hs₆.contracts,hs₅.contracts,hcurrent]
              rfl
          · exact h₇.active x hx

theorem handle_leads (h : Kept cfg [] [] [] s) {r : Request} (hsettles : Settles cfg.cal s r) :
    Leads cfg (handle cfg r) (fun _ s' => Kept cfg [] [] [] s') s := by
  cases r with
  | checkConnection deviceID =>
    refine leads_bind ((checkConnection_leads h deviceID).mono ?_)
    exact fun _ s₁ h₁ => leads_pure fun s₂ hs₂ => h₁.later hs₂
  | prepareRelay relayUUID deviceID operatorID =>
    refine leads_bind ((prepareRelay_leads h relayUUID deviceID operatorID).mono ?_)
    exact fun _ s₁ h₁ => leads_pure fun s₂ hs₂ => h₁.later hs₂
  | activateRelay relayUUID => exact activateRelay_leads h relayUUID
  | endRelay relayUUID => exact endRelay_leads h hsettles
  | tick order => exact tick_leads h hsettles

end BetterDesk.Billing
