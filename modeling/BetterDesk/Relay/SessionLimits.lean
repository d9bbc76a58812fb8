import BetterDesk.Lib.SyncMap
import BetterDesk.Lib.Text
import BetterDesk.Relay.Server
import Mathlib.Algebra.Order.Ring.Int

/-! # Active sessions per IP (ratelimit/connlimiter.go, relay) -/

namespace BetterDesk.Relay
open Exec Text List Option

/-- `ConnLimiter`. A count never passes `maxConn`, which fits an int32. -/
structure ConnLimiter where
  active : SyncMap Bytes ℤ
  maxConn : ℤ

def newConnLimiter (maxPerIP : ℤ) : ConnLimiter := ⟨[],maxPerIP⟩

def newConnLimiterFromInt (maxPerIP : ℤ) : ConnLimiter :=
  newConnLimiter (if maxPerIP≤0 then 0 else if 2^31-1 < maxPerIP then 2^31-1 else maxPerIP)

namespace ConnLimiter
variable (l : ConnLimiter)

def activeCount (ip : Bytes) : ℤ := (l.active.load ip).getD 0

def acquire (ip : Bytes) : Bool × ConnLimiter :=
  if l.maxConn≤l.activeCount ip then (false,l)
  else (true,{l with active := l.active.store ip (l.activeCount ip+1)})

def release (ip : Bytes) : ConnLimiter :=
  if l.activeCount ip-1≤0 then {l with active := l.active.delete ip}
  else {l with active := l.active.store ip (l.activeCount ip-1)}

theorem activeCount_store (ip ip' : Bytes) (n : ℤ) :
    activeCount {l with active := l.active.store ip n} ip' = if ip'=ip then n else l.activeCount ip' := by
  unfold activeCount
  split
  · rename_i h
    rw [h,SyncMap.load_store_self]
    rfl
  · rename_i h
    rw [SyncMap.load_store_of_ne _ _ h]

variable {ip : Bytes}

theorem acquire_full (h : l.maxConn≤l.activeCount ip) : l.acquire ip=(false,l) := if_pos h

theorem acquire_free (h : ¬ l.maxConn≤l.activeCount ip) : (l.acquire ip).1=true ∧
    ∀ ip', (l.acquire ip).2.activeCount ip' = if ip'=ip then l.activeCount ip+1 else l.activeCount ip' := by
  unfold acquire
  rw [if_neg h]
  exact ⟨rfl,fun ip' => l.activeCount_store ip ip' _⟩

theorem release_activeCount (h : 0<l.activeCount ip) (ip' : Bytes) :
    (l.release ip).activeCount ip' = if ip'=ip then l.activeCount ip-1 else l.activeCount ip' := by
  unfold release
  by_cases hlast : l.activeCount ip-1≤0
  · rw [if_pos hlast]
    unfold activeCount at hlast h ⊢
    split
    · rename_i heq
      rw [heq,SyncMap.load_delete_self,getD_none]
      omega
    · rename_i hne
      rw [SyncMap.load_delete_of_ne _ hne]
  · rw [if_neg hlast]
    exact l.activeCount_store ip ip' _

end ConnLimiter

/-- `net.SplitHostPort`, its host. -/
def splitHost (hostport : Bytes) : Option Bytes :=
  -- what stands before the last colon
  let before:=(hostport.reverse.dropWhile (·≠58)).drop 1 |>.reverse
  if 58∉hostport then none
  else match hostport with
    | 91::inner =>
      let host:=inner.takeWhile (·≠93)
      if 93∉inner then none
      else if 91::(host++[93])≠before then none
      else if 91∈inner ∨ 93∈hostport.drop (host.length+2) then none
      else some host
    | _ => if 58∈before ∨ 91∈hostport ∨ 93∈hostport then none else some before

def ipOf (addr : Bytes) : Bytes := (splitHost addr).getD addr

example : ipOf (lit "[fe80::1]:21117")=lit "fe80::1" ∧ ipOf (lit "10.0.0.7:5")=lit "10.0.0.7" ∧
    ipOf (lit "::1")=lit "::1" := by decide

inductive Stage
  | acquiring (rest : List Bytes)     -- the addresses that the loop has yet to see
  | running
  | releasing (rest : List Bytes)     -- the IPs that the deferred call has yet to release
  | rejected                          -- returned from the loop, nothing is deferred yet
  | ended
  deriving DecidableEq

/-- A call of a start function; `ips` is its local variable. -/
structure RelaySession where
  kind : RelayKind
  ips : List Bytes
  stage : Stage

def startRelay (conn1 conn2 : Bytes) : RelaySession := ⟨.startRelay,[],.acquiring [conn1,conn2]⟩

def startWSRelay (addr1 addr2 : Bytes) : RelaySession := ⟨.startWSRelay,[],.acquiring [addr1,addr2]⟩

def startMixedRelay (tcpAddr wsAddr : Bytes) : RelaySession :=
  ⟨.startMixedRelay,[],.acquiring [tcpAddr,wsAddr]⟩

namespace RelaySession

def endpoints (r : RelaySession) : List Bytes := match r.stage with
  | .acquiring _ | .running => r.ips
  | .releasing rest => rest
  | .rejected | .ended => []

def leaked (r : RelaySession) : List Bytes := match r.stage with
  | .rejected => r.ips
  | _ => []

end RelaySession

structure Limited where
  sessionLimiter : ConnLimiter
  sessions : List RelaySession

inductive LimitAct
  | startRelay (conn1 conn2 : Bytes)
  | startWSRelay (addr1 addr2 : Bytes)
  | startMixedRelay (tcpAddr wsAddr : Bytes)
  | acquire (i : ℕ)
  | finish (i : ℕ)
  | release (i : ℕ)

namespace Limited

def init (maxPerIP : ℤ) : Limited := ⟨newConnLimiterFromInt maxPerIP,[]⟩

def acquireNext (s : Limited) (i : ℕ) (r : RelaySession) : Option Limited := match r.stage with
  | .acquiring (addr::rest) =>
    let a:=s.sessionLimiter.acquire (ipOf addr)
    if a.1 then
      some ⟨a.2,s.sessions.set i ⟨r.kind,r.ips++[ipOf addr],if rest=[] then .running else .acquiring rest⟩⟩
    else some ⟨a.2,s.sessions.set i {r with stage := .rejected}⟩
  | _ => none

def finish (s : Limited) (i : ℕ) (r : RelaySession) : Option Limited := match r.stage with
  | .running => some {s with sessions := s.sessions.set i {r with stage := .releasing r.ips}}
  | _ => none

def releaseNext (s : Limited) (i : ℕ) (r : RelaySession) : Option Limited := match r.stage with
  | .releasing (ip::rest) =>
    some ⟨s.sessionLimiter.release ip,s.sessions.set i {r with stage := if rest=[] then .ended else .releasing rest}⟩
  | _ => none

def step (s : Limited) : LimitAct → Option Limited
  | .startRelay a b => some {s with sessions := s.sessions++[Relay.startRelay a b]}
  | .startWSRelay a b => some {s with sessions := s.sessions++[Relay.startWSRelay a b]}
  | .startMixedRelay a b => some {s with sessions := s.sessions++[Relay.startMixedRelay a b]}
  | .acquire i => s.sessions[i]?.bind (s.acquireNext i)
  | .finish i => s.sessions[i]?.bind (s.finish i)
  | .release i => s.sessions[i]?.bind (s.releaseNext i)

def slots (f : RelaySession → List Bytes) (l : List RelaySession) (ip : Bytes) : ℕ := (l.flatMap f).count ip

/-- The count of every IP is the number of endpoints of live sessions with that IP. -/
def Accounted (s : Limited) : Prop :=
  ∀ ip, s.sessionLimiter.activeCount ip=slots RelaySession.endpoints s.sessions ip

def SecondFree (s : Limited) : LimitAct → Prop
  | .acquire i => ∀ r∈s.sessions[i]?, r.ips≠[] → match r.stage with
    | .acquiring (addr::_) => s.sessionLimiter.activeCount (ipOf addr) < s.sessionLimiter.maxConn
    | _ => True
  | _ => True

variable {r r' : RelaySession} {s t : Limited} {i : ℕ}

theorem slots_append {f : RelaySession → List Bytes} {l : List RelaySession} (ip : Bytes)
    (h : f r=[]) : slots f (l++[r]) ip=slots f l ip := by
  unfold slots
  simp [h]

theorem slots_set {f : RelaySession → List Bytes} {l : List RelaySession}
    (h : l[i]?=some r) (r' : RelaySession) (ip : Bytes) :
    slots f (l.set i r') ip+(f r).count ip=slots f l ip+(f r').count ip := by
  unfold slots
  induction l generalizing i with
  | nil => cases h
  | cons x l ih =>
    cases i with
    | zero =>
      cases h
      simp only [set_cons_zero,flatMap_cons,count_append]
      omega
    | succ n =>
      have hrest:=ih h
      simp only [set_cons_succ,flatMap_cons,count_append]
      omega

def Counted (s : Limited) : Prop := ∀ ip, s.sessionLimiter.activeCount ip =
  slots RelaySession.endpoints s.sessions ip+slots RelaySession.leaked s.sessions ip

theorem Counted.set {l : ConnLimiter} (h : s.Counted) (hr : s.sessions[i]?=some r)
    (hl : ∀ ip, l.activeCount ip+r.endpoints.count ip+r.leaked.count ip =
      s.sessionLimiter.activeCount ip+r'.endpoints.count ip+r'.leaked.count ip) :
    Counted ⟨l,s.sessions.set i r'⟩ := by
  intro ip
  have hlive:=slots_set (f := RelaySession.endpoints) hr r' ip
  have hleak:=slots_set (f := RelaySession.leaked) hr r' ip
  have hold:=h ip
  have hnew:=hl ip
  dsimp only
  omega

theorem Counted.set_same (h : s.Counted) (hr : s.sessions[i]?=some r)
    (hslots : ∀ ip, r.endpoints.count ip+r.leaked.count ip=r'.endpoints.count ip+r'.leaked.count ip) :
    Counted ⟨s.sessionLimiter,s.sessions.set i r'⟩ := by
  refine h.set hr fun ip => ?_
  have := hslots ip
  omega

theorem Counted.begin (h : s.Counted) (kind : RelayKind) (addrs : List Bytes) :
    Counted {s with sessions := s.sessions++[⟨kind,[],.acquiring addrs⟩]} := by
  intro ip
  dsimp only
  rw [slots_append ip rfl,slots_append ip rfl]
  exact h ip

theorem counted_acquireNext (h : s.Counted) (hr : s.sessions[i]?=some r)
    (hst : s.acquireNext i r=some t) : t.Counted := by
  obtain ⟨kind,ips,stage⟩:=r
  unfold acquireNext at hst
  cases stage with
  | acquiring rest =>
    cases rest with
    | nil => cases hst
    | cons addr rest =>
      dsimp only at hst
      by_cases hfull : s.sessionLimiter.maxConn ≤ s.sessionLimiter.activeCount (ipOf addr)
      · rw [s.sessionLimiter.acquire_full hfull] at hst
        cases hst
        -- what it holds is leaked from here on
        exact h.set_same hr fun ip => by simp [RelaySession.endpoints,RelaySession.leaked]
      · obtain ⟨hok,hcount⟩:=s.sessionLimiter.acquire_free hfull
        rw [if_pos hok] at hst
        cases hst
        refine h.set hr fun ip => ?_
        have hends : (RelaySession.endpoints ⟨kind,ips++[ipOf addr],if rest=[] then .running else .acquiring rest⟩) =
            ips++[ipOf addr] := by
          split <;> rfl
        have hleaks : (RelaySession.leaked ⟨kind,ips++[ipOf addr],if rest=[] then .running else .acquiring rest⟩) =
            [] := by
          split <;> rfl
        rw [hcount,hends,hleaks]
        by_cases hip : ip=ipOf addr
        · simp only [hip,RelaySession.endpoints,RelaySession.leaked,count_append,count_singleton_self,
            count_nil,if_true]
          omega
        · have hne : [ipOf addr].count ip=0 := count_eq_zero.mpr (by simpa using hip)
          simp only [hip,hne,RelaySession.endpoints,RelaySession.leaked,count_append,if_false]
          omega
  | running | releasing rest | rejected | ended => cases hst

theorem counted_finish (h : s.Counted) (hr : s.sessions[i]?=some r) (hst : s.finish i r=some t) : t.Counted := by
  obtain ⟨kind,ips,stage⟩:=r
  unfold finish at hst
  cases stage with
  | running =>
    cases hst
    exact h.set_same hr fun ip => rfl
  | acquiring rest | releasing rest | rejected | ended => cases hst

theorem Counted.held {ip : Bytes} (h : s.Counted)
    (hr : s.sessions[i]?=some r) (hip : ip∈r.endpoints) : 0 < s.sessionLimiter.activeCount ip := by
  have hmem : ip∈s.sessions.flatMap RelaySession.endpoints :=
    mem_flatMap.mpr ⟨r,mem_of_getElem? hr,hip⟩
  have hpos : 0 < slots RelaySession.endpoints s.sessions ip := count_pos_iff.mpr hmem
  have := h ip
  omega

theorem counted_releaseNext (h : s.Counted) (hr : s.sessions[i]?=some r)
    (hst : s.releaseNext i r=some t) : t.Counted := by
  obtain ⟨kind,ips,stage⟩:=r
  unfold releaseNext at hst
  cases stage with
  | releasing rest =>
    cases rest with
    | nil => cases hst
    | cons ip₀ rest =>
      cases hst
      have hheld : 0 < s.sessionLimiter.activeCount ip₀ := h.held hr (mem_cons_self ..)
      refine h.set hr fun ip => ?_
      have hends : (RelaySession.endpoints ⟨kind,ips,if rest=[] then .ended else .releasing rest⟩)=rest := by
        split
        · rename_i hnil
          rw [hnil]
          rfl
        · rfl
      have hleaks : (RelaySession.leaked ⟨kind,ips,if rest=[] then .ended else .releasing rest⟩)=[] := by
        split <;> rfl
      rw [s.sessionLimiter.release_activeCount hheld,hends,hleaks]
      by_cases hip : ip=ip₀
      · simp only [hip,RelaySession.endpoints,RelaySession.leaked,count_cons_self,count_nil,if_true]
        omega
      · simp [hip,RelaySession.endpoints,RelaySession.leaked,count_cons_of_ne (Ne.symm hip)]
  | acquiring rest | running | rejected | ended => cases hst

theorem counted_step {a : LimitAct} (h : s.Counted) (hst : s.step a=some t) : t.Counted := by
  cases a with
  | startRelay a b | startWSRelay a b | startMixedRelay a b =>
    cases hst
    exact h.begin _ _
  | acquire i =>
    obtain ⟨r,hr,hst⟩:=bind_eq_some_iff.mp hst
    exact counted_acquireNext h hr hst
  | finish i =>
    obtain ⟨r,hr,hst⟩:=bind_eq_some_iff.mp hst
    exact counted_finish h hr hst
  | release i =>
    obtain ⟨r,hr,hst⟩:=bind_eq_some_iff.mp hst
    exact counted_releaseNext h hr hst

theorem counted_init (maxPerIP : ℤ) : (init maxPerIP).Counted := fun _ => rfl

def NoneLeaked (s : Limited) : Prop := ∀ r∈s.sessions,r.leaked=[]

theorem Counted.accounted_iff (h : s.Counted) : s.Accounted ↔ s.NoneLeaked := by
  have hslots : s.Accounted ↔ ∀ ip, slots RelaySession.leaked s.sessions ip=0 := by
    refine forall_congr' fun ip => ?_
    have := h ip
    omega
  rw [hslots]
  refine ⟨fun hnone r hr => ?_,fun hnone ip => ?_⟩
  · refine eq_nil_iff_forall_not_mem.mpr fun ip hip => ?_
    exact count_eq_zero.mp (hnone ip) (mem_flatMap.mpr ⟨r,hr,hip⟩)
  · refine count_eq_zero.mpr fun hip => ?_
    obtain ⟨r,hr,hip⟩:=mem_flatMap.mp hip
    rw [hnone r hr] at hip
    cases hip

theorem noneLeaked_set {l : ConnLimiter} (hr : s.sessions[i]?=some r)
    (hnone : r.leaked=[]) : NoneLeaked ⟨l,s.sessions.set i r'⟩ ↔ s.NoneLeaked ∧ r'.leaked=[] := by
  have hlt : i < s.sessions.length := (List.getElem?_eq_some_iff.mp hr).1
  refine ⟨fun h => ⟨fun x hx => ?_,h r' (mem_set hlt r')⟩,fun h x hx => ?_⟩
  · obtain ⟨j,hj⟩:=mem_iff_getElem?.mp hx
    by_cases hij : i=j
    · rw [← hij,hr] at hj
      cases hj
      exact hnone
    · exact h x (mem_iff_getElem?.mpr ⟨j,by rw [List.getElem?_set_ne hij]; exact hj⟩)
  · rcases mem_or_eq_of_mem_set hx with hx | rfl
    · exact h.1 x hx
    · exact h.2

theorem noneLeaked_step {a : LimitAct} (hst : s.step a=some t) : t.NoneLeaked ↔ s.NoneLeaked ∧ s.SecondFree a := by
  cases a with
  | startRelay a b | startWSRelay a b | startMixedRelay a b =>
    cases hst
    unfold NoneLeaked
    simp only [forall_mem_append,forall_mem_singleton]
    exact and_congr_right fun _ => ⟨fun _ => trivial,fun _ => rfl⟩
  | acquire i =>
    obtain ⟨⟨kind,ips,stage⟩,hr,hst⟩:=bind_eq_some_iff.mp hst
    unfold SecondFree
    simp only [hr,mem_def,some.injEq,forall_eq']
    unfold acquireNext at hst
    cases stage with
    | acquiring rest =>
      cases rest with
      | nil => cases hst
      | cons addr rest =>
        dsimp only at hst ⊢
        by_cases hfull : s.sessionLimiter.maxConn ≤ s.sessionLimiter.activeCount (ipOf addr)
        · rw [s.sessionLimiter.acquire_full hfull] at hst
          cases hst
          rw [noneLeaked_set hr rfl]
          exact and_congr_right fun _ =>
            ⟨fun hnil hheld => absurd hnil hheld,fun hfree => by_contra fun hheld => by have := hfree hheld; omega⟩
        · rw [if_pos (s.sessionLimiter.acquire_free hfull).1] at hst
          cases hst
          rw [noneLeaked_set hr rfl]
          refine and_congr_right fun _ => ⟨fun _ _ => by omega,fun _ => ?_⟩
          split <;> rfl
    | running | releasing rest | rejected | ended => cases hst
  | finish i =>
    obtain ⟨⟨kind,ips,stage⟩,hr,hst⟩:=bind_eq_some_iff.mp hst
    unfold finish at hst
    cases stage with
    | running =>
      cases hst
      rw [noneLeaked_set hr rfl]
      exact and_congr_right fun _ => ⟨fun _ => trivial,fun _ => rfl⟩
    | acquiring rest | releasing rest | rejected | ended => cases hst
  | release i =>
    obtain ⟨⟨kind,ips,stage⟩,hr,hst⟩:=bind_eq_some_iff.mp hst
    unfold releaseNext at hst
    cases stage with
    | releasing rest =>
      cases rest with
      | nil => cases hst
      | cons ip rest =>
        cases hst
        rw [noneLeaked_set hr rfl]
        refine and_congr_right fun _ => ⟨fun _ => trivial,fun _ => ?_⟩
        dsimp only
        split <;> rfl
    | acquiring rest | running | rejected | ended => cases hst

/-- After any run the counts are those of the live sessions exactly when every session
that held a slot found its second endpoint below the limit. -/
theorem counts_live_endpoints {maxPerIP : ℤ} {as : List LimitAct} {t : Limited}
    (h : exec step (init maxPerIP) as=some t) : t.Accounted ↔ Along step SecondFree (init maxPerIP) as := by
  have hcounted : t.Counted :=
    exec_invariant_all Counted (fun s a t hs hst => counted_step hs hst) (counted_init maxPerIP) h
  have hnone : (init maxPerIP).NoneLeaked := fun r hr => (nomatch hr)
  rw [hcounted.accounted_iff,exec_iff_along NoneLeaked (fun s a t hst => noneLeaked_step hst) h]
  exact and_iff_right hnone

/-- Two sessions that share an endpoint; one is over. -/
theorem shared_endpoint_counted :
    ∃ t, exec step (init 2) [.startRelay (lit "10.0.0.7:50000") (lit "10.0.0.8:50001"),.acquire 0,
        .startMixedRelay (lit "10.0.0.7:50002") (lit "10.0.0.9:50003"),.acquire 1,.acquire 1,.acquire 0,
        .finish 0,.release 0,.release 0]=some t ∧ t.sessions.map RelaySession.stage=[.ended,.running] ∧
      (t.Accounted ↔ Along step SecondFree (init 2) [.startRelay (lit "10.0.0.7:50000") (lit "10.0.0.8:50001"),
        .acquire 0,.startMixedRelay (lit "10.0.0.7:50002") (lit "10.0.0.9:50003"),.acquire 1,.acquire 1,
        .acquire 0,.finish 0,.release 0,.release 0]) := ⟨_,rfl,by decide,counts_live_endpoints rfl⟩

/-- Both endpoints behind one address, at a limit of one: the session is rejected and the
address is locked out with no session alive. -/
theorem rejected_at_second_leaks :
    ∃ t, exec step (init 1) [.startRelay (lit "10.0.0.7:50000") (lit "10.0.0.7:50001"),.acquire 0,.acquire 0,
        .startWSRelay (lit "10.0.0.7:50002") (lit "10.0.0.8:50003"),.acquire 1]=some t ∧
      t.sessionLimiter.activeCount (lit "10.0.0.7")=1 ∧ t.sessions.map RelaySession.stage=[.rejected,.rejected] ∧
      ¬ t.Accounted := by
  refine ⟨_,rfl,by decide,by decide,fun h => ?_⟩
  have hcount:=h (lit "10.0.0.7")
  revert hcount
  decide

end Limited

end BetterDesk.Relay
