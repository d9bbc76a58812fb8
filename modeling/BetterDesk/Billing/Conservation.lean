import BetterDesk.Billing.Settlement

/-! # Runs of the metering (billing/service.go, billing/period_service.go) -/

namespace BetterDesk.Billing
open Db Programs Exec Option Function

/-- What the sessions were charged came out of the pool of the month it lies in, is in the
total of that month, and nothing else came out of the pool of the current month. -/
structure Meter.InItsMonth (cfg : Config) (s : Meter) : Prop where
  charges : s.charges=s.draws.map Draw.segment
  pools : ∀ d∈s.draws,d.pool=some (cfg.cal.periodAt d.segment.start) ∧
    d.segment.stop≤cfg.cal.monthEnd (cfg.cal.periodAt d.segment.start)
  totals : ∀ id m, s.usedTotal id m=included cfg.cal s.charges id m
  remaining : ∀ id row pkg m, s.contracts id=some row → s.packages row.packageID=some pkg →
    row.currentPeriod=some m → row.remainingMinutes=pkg.includedMinutes-included cfg.cal s.charges id m

abbrev OneByOne (cfg : Config) (ok : Meter → Op → Prop) : System → Act → Prop :=
  Alone (fun s r => Settles cfg.cal s r) (fun s e => cfg.cal.periodAt (s.now+e)=cfg.cal.periodAt s.now) ok

section
variable {cfg : Config} {s₀ : Meter} {t : System} {as : List Act}

variable {s : Meter}

theorem Meter.Fresh.kept (h : s₀.Fresh cfg) : Kept cfg [] [] [] s₀ where
  own := h.own
  pools d hd := by
    rw [h.draws] at hd
    cases hd
  summed id m := by
    rw [Meter.usedTotal,h.totals,h.draws]
    rfl
  balance := by rw [h.charges,h.draws]; rfl
  reached d hd := by
    rw [h.draws] at hd
    cases hd
  past := h.past
  pool id row pkg hrow hpkg := by
    have hzero : (row.currentPeriod.map (included cfg.cal (s₀.draws.map Draw.segment) id)).getD 0=0 := by
      rw [h.draws]
      cases row.currentPeriod <;> rfl
    rw [hzero]
    exact h.full id row pkg hrow hpkg
  active x hx := by
    rw [h.active] at hx
    cases hx

theorem kept_between_calls (h0 : s₀.Fresh cfg)
    (hok : Along (step cfg) (OneByOne cfg fun _ _ => True) (initial s₀) as)
    (h : exec (step cfg) (initial s₀) as=some t) (hidle : t.Idle) : Kept cfg [] [] [] t.store := by
  refine exec_alone (Later cfg.cal) (Kept cfg [] [] []) (Later.refl _) Later.trans ?_ ?_ ?_ h0.kept hok h hidle
  · exact fun s n hstay => ⟨n,rfl,hstay⟩
  · exact fun s n hs => hs.tick n
  · exact fun s r hs hsettles => handle_leads hs hsettles

theorem Kept.charges_eq (h : Kept cfg [] [] [] s) : s.charges=s.draws.map Draw.segment := by
  simpa only [List.append_nil] using h.balance

theorem Kept.totals_eq (h : Kept cfg [] [] [] s) (id : String) (m : ℕ) :
    s.usedTotal id m=included cfg.cal s.charges id m := by
  rw [h.charges_eq]
  exact h.summed id m

theorem Kept.remaining_eq (h : Kept cfg [] [] [] s) {id : String} {row : ContractRow}
    {pkg : Package} {m : ℕ} (hrow : s.contracts id=some row) (hpkg : s.packages row.packageID=some pkg)
    (hm : row.currentPeriod=some m) : row.remainingMinutes=pkg.includedMinutes-included cfg.cal s.charges id m := by
  have hpool:=h.pool id row pkg hrow hpkg
  rw [hm] at hpool
  rw [h.charges_eq]
  exact hpool

/-- Usage is charged to the month that it happened in. -/
theorem usage_in_its_month (h0 : s₀.Fresh cfg) (hok : Along (step cfg) (OneByOne cfg fun _ _ => True) (initial s₀) as)
    (h : exec (step cfg) (initial s₀) as=some t) (hidle : t.Idle) : t.store.InItsMonth cfg := by
  have hkept:=kept_between_calls h0 hok h hidle
  exact ⟨hkept.charges_eq,hkept.pools,hkept.totals_eq,fun id row pkg m => hkept.remaining_eq⟩

end

def thirtyDays : ℕ := 30*24*60*60*second

def thirtyDayMonths : Calendar where
  periodAt t := t/thirtyDays
  start m := m*thirtyDays
  increasing m := by
    unfold thirtyDays second
    omega
  periodAt_iff t m := by
    unfold thirtyDays second
    omega

def minutes (n : ℕ) : ℕ := n*60*second

def billing : Config := ⟨thirtyDayMonths,1,false⟩

def gate : Service where
  contracts := [⟨"contract-1",.device,"device-1","active","EUR"⟩]
  deviceGroups := none
  deviceOrg := fun _ => ""
  fails := fun _ => false
  clockSynced := none
  pending := fun _ => none

def newMeter : Meter where
  now := minutes 10
  gate := gate
  contracts := update (fun _ => none) "contract-1" (some ⟨"contract-1","package-1",100,none⟩)
  packages := update (fun _ => none) "package-1" (some ⟨100,1⟩)
  totals := fun _ _ => none
  sessions := []
  pending := []
  active := []
  started := []
  draws := []
  charges := []

theorem newMeter_row {id : String} {row : ContractRow} (h : newMeter.contracts id=some row) :
    id="contract-1" ∧ row=⟨"contract-1","package-1",100,none⟩ := by
  by_cases hid : id="contract-1"
  · subst hid
    exact ⟨rfl,Option.some.inj h.symm⟩
  · have hnone : newMeter.contracts id=none := by
      unfold newMeter
      dsimp only
      rw [update_of_ne hid]
    rw [hnone] at h
    cases h

theorem newMeter_fresh : newMeter.Fresh billing where
  own id row h := by
    obtain ⟨rfl,rfl⟩:=newMeter_row h
    rfl
  past id row m h hm := by
    obtain ⟨-,rfl⟩:=newMeter_row h
    cases hm
  full id row pkg h hpkg := by
    obtain ⟨-,rfl⟩:=newMeter_row h
    have hsame : newMeter.packages "package-1" = some ⟨100,1⟩ := rfl
    rw [hsame] at hpkg
    cases hpkg
    rfl
  totals _ _ := rfl
  sessions := rfl
  active := rfl
  started := rfl
  draws := rfl
  charges := rfl

/-- A call from its beginning to its end, as process `i` with `n` operations. -/
def call (i n : ℕ) (r : Request) : List Act := .begin r::List.replicate n (.step i false)

def inTurn : MapOrder := ⟨fun l => l,fun l => List.Perm.refl l⟩

/-- A session of half an hour, and one across the end of the month that the ticker settles. -/
def twoSessions : List Act :=
  call 0 9 (.prepareRelay "relay-1" "device-1" "viewer-1")++call 1 7 (.activateRelay "relay-1") ++
    [.env (minutes 30)]++call 2 13 (.endRelay "relay-1")++[.env (thirtyDays-minutes 50)] ++
    call 3 7 (.prepareRelay "relay-2" "device-1" "viewer-1")++call 4 7 (.activateRelay "relay-2") ++
    [.env (minutes 30)]++call 5 19 (.tick inTurn)++call 6 13 (.endRelay "relay-2")

theorem twoSessions_in_their_months : ∃ t, exec (step billing) (initial newMeter) twoSessions=some t ∧
    t.store.InItsMonth billing := by
  obtain ⟨t,ht⟩ : ∃ t, exec (step billing) (initial newMeter) twoSessions=some t :=
    isSome_iff_exists.mp (by decide)
  have hidle : (exec (step billing) (initial newMeter) twoSessions).map (fun t => decide t.Idle)=some true := by
    decide
  rw [ht] at hidle
  exact ⟨t,ht,usage_in_its_month newMeter_fresh (by decide +kernel) ht (of_decide_eq_true (Option.some.inj hidle))⟩

def rolledFirst : List Act :=
  [.env (thirtyDays-minutes 20)]++call 0 9 (.prepareRelay "relay-1" "device-1" "viewer-1") ++
    call 1 7 (.activateRelay "relay-1")++[.env (minutes 30)]++call 2 8 (.checkConnection "device-1") ++
    call 3 24 (.endRelay "relay-1")

/-- The minutes before the boundary come out of the new pool. -/
theorem rolledFirst_misplaced : ¬ ∀ (cfg : Config) (s₀ : Meter) (as : List Act) (t : System), s₀.Fresh cfg →
      exec (step cfg) (initial s₀) as=some t → t.Idle → t.store.InItsMonth cfg := by
  intro hclaim
  obtain ⟨t,ht⟩ : ∃ t, exec (step billing) (initial newMeter) rolledFirst=some t :=
    isSome_iff_exists.mp (by decide)
  have hview : (exec (step billing) (initial newMeter) rolledFirst).map (fun t => (decide t.Idle,
      t.store.draws.map fun d => (decide (d.pool=some (billing.cal.periodAt d.segment.start))))) =
      some (true,[false,true]) := by
    decide
  rw [ht] at hview
  simp only [map_some,some.injEq,Prod.mk.injEq] at hview
  obtain ⟨hidle,hdraws⟩:=hview
  have hpools:=(hclaim billing newMeter rolledFirst t newMeter_fresh ht (of_decide_eq_true hidle)).pools
  have hall : ∀ b∈t.store.draws.map (fun d => decide (d.pool=some (billing.cal.periodAt d.segment.start))), b=true := by
    intro b hb
    obtain ⟨d,hd,rfl⟩:=List.mem_map.mp hb
    exact decide_eq_true (hpools d hd).1
  rw [hdraws] at hall
  exact absurd (hall false List.mem_cons_self) (by decide)

end BetterDesk.Billing
