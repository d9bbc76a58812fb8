import BetterDesk.Lib.SyncMap
import Mathlib.Algebra.Order.Ring.Int

/-! # Connections that wait for their authorization (relay/server.go) -/

namespace BetterDesk.Relay
open List

structure AuthWaitLimiter where
  maxGlobal : ℤ
  maxPerIP : ℤ
  total : ℤ
  byIP : SyncMap String ℤ
  deriving DecidableEq

namespace AuthWaitLimiter

def new (maxGlobal maxPerIP : ℤ) : AuthWaitLimiter := ⟨maxGlobal,maxPerIP,0,[]⟩

def keyOf (ip : String) : String := if ip="" then "unknown" else ip

variable (l : AuthWaitLimiter)

def countOf (ip : String) : ℤ := (l.byIP.load ip).getD 0

def acquire (ip : String) : Bool × AuthWaitLimiter :=
  let ip:=keyOf ip
  if 0<l.maxGlobal ∧ l.maxGlobal≤l.total then (false,l)
  else if 0<l.maxPerIP ∧ l.maxPerIP≤l.countOf ip then (false,l)
  else (true,{l with total := l.total+1,byIP := l.byIP.store ip (l.countOf ip+1)})

def release (ip : String) : AuthWaitLimiter :=
  let ip:=keyOf ip
  let count:=l.countOf ip
  if count=0 then l
  else {l with total := l.total-1,byIP := if 1<count then l.byIP.store ip (count-1) else l.byIP.delete ip}

end AuthWaitLimiter

/-- The limiter, which may be nil, with the addresses whose slots are not yet given back. -/
structure AuthWait where
  limiter : Option AuthWaitLimiter
  held : List String
  deriving DecidableEq

inductive WaitCall
  | acquire (ip : String)
  | release (ip : String)
  deriving DecidableEq

/-- A release belongs to an acquire that succeeded. -/
def AuthWait.step (s : AuthWait) : WaitCall → AuthWait
  | .acquire ip => match s.limiter with
    | none => s
    | some l => ⟨some (l.acquire ip).2,if (l.acquire ip).1 then ip::s.held else s.held⟩
  | .release ip => if ip∈s.held then ⟨s.limiter.map fun l => l.release ip,s.held.erase ip⟩ else s

def AuthWait.run (s : AuthWait) (calls : List WaitCall) : AuthWait := calls.foldl step s

namespace AuthWaitLimiter

def counts (l : AuthWaitLimiter) : List ℤ := l.byIP.map Prod.snd

structure Holds (l : AuthWaitLimiter) (held : List String) : Prop where
  nodup : (l.byIP.map Prod.fst).Nodup
  sum : l.total=l.counts.sum
  length : l.total=held.length
  count : ∀ ip, l.countOf ip=(held.map keyOf).count ip
  positive : ∀ e∈l.byIP,1≤e.2
  global : 0<l.maxGlobal → l.total≤l.maxGlobal
  perIP : 0<l.maxPerIP → ∀ ip, l.countOf ip≤l.maxPerIP

variable {l : AuthWaitLimiter} {held : List String}

theorem sum_delete {m : SyncMap String ℤ} (h : (m.map Prod.fst).Nodup) (ip : String) :
    (m.map Prod.snd).sum=(m.load ip).getD 0+((m.delete ip).map Prod.snd).sum := by
  induction m with
  | nil => rfl
  | cons e m ih =>
    simp only [map_cons,nodup_cons] at h
    by_cases he : e.1=ip
    · have hload : SyncMap.load m ip=none := by
        rw [SyncMap.load,Option.map_eq_none_iff,find?_eq_none]
        intro x hx hxip
        apply h.1
        rw [he,← of_decide_eq_true hxip]
        exact mem_map_of_mem hx
      have hdelete : SyncMap.delete (e::m) ip=SyncMap.delete m ip := by simp [SyncMap.delete,he]
      have hfirst : SyncMap.load (e::m) ip=some e.2 := by simp [SyncMap.load,he]
      rw [hdelete,hfirst,SyncMap.delete_eq_self hload]
      simp
    · have hdelete : SyncMap.delete (e::m) ip=e::SyncMap.delete m ip := by simp [SyncMap.delete,he]
      have hrest : SyncMap.load (e::m) ip=SyncMap.load m ip := by simp [SyncMap.load,he]
      have hsum:=ih h.2
      rw [hdelete,hrest]
      simp only [map_cons,sum_cons]
      omega

theorem count_store (l : AuthWaitLimiter) (ip ip' : String) (n : ℤ) :
    ((l.byIP.store ip n).load ip').getD 0 = if ip'=ip then n else l.countOf ip' := by
  by_cases h : ip'=ip
  · simp [h]
  · simp [SyncMap.load_store_of_ne _ _ h,h,countOf]

theorem count_delete (l : AuthWaitLimiter) (ip ip' : String) :
    ((l.byIP.delete ip).load ip').getD 0 = if ip'=ip then 0 else l.countOf ip' := by
  by_cases h : ip'=ip
  · simp [h]
  · simp [SyncMap.load_delete_of_ne _ h,h,countOf]

theorem Holds.entry (h : l.Holds held) {e : String × ℤ} (he : e∈l.byIP) : l.countOf e.1=e.2 := by
  rw [countOf,SyncMap.load_of_mem h.nodup he]
  rfl

theorem holds_new (maxGlobal maxPerIP : ℤ) : (new maxGlobal maxPerIP).Holds [] where
  nodup := nodup_nil
  sum := rfl
  length := rfl
  count _ := rfl
  positive _ he := absurd he not_mem_nil
  global := le_of_lt
  perIP h _ := h.le

theorem Holds.acquired (h : l.Holds held) {ip : String} (hg : ¬(0<l.maxGlobal ∧ l.maxGlobal≤l.total))
    (hp : ¬(0<l.maxPerIP ∧ l.maxPerIP≤l.countOf (keyOf ip))) :
    Holds {l with total := l.total+1,byIP := l.byIP.store (keyOf ip) (l.countOf (keyOf ip)+1)} (ip::held) where
  nodup := SyncMap.nodup_store h.nodup _ _
  sum := by
    have hs:=sum_delete h.nodup (keyOf ip)
    have ht:=h.sum
    simp only [counts,SyncMap.store,map_cons,sum_cons,countOf] at hs ht ⊢
    omega
  length := by simp [h.length]
  count ip' := by
    have hc:=h.count ip'
    have hc':=h.count (keyOf ip)
    unfold countOf at hc hc' ⊢
    simp only [count_store,map_cons,count_cons,beq_iff_eq]
    by_cases he : ip'=keyOf ip
    · simp [he,hc']
    · have he' : ¬keyOf ip=ip' := fun h => he h.symm
      simp [he,he',hc,countOf]
  positive e he := by
    rcases SyncMap.mem_store he with rfl | he
    · have hc:=h.count (keyOf ip)
      simp only
      omega
    · exact h.positive e he
  global := by
    intro hpos
    simp only at hpos ⊢
    omega
  perIP := by
    intro hpos ip'
    have hall:=h.perIP hpos
    unfold countOf at *
    simp only [count_store] at hpos ⊢
    split
    · omega
    · exact hall ip'

theorem Holds.released (h : l.Holds held) {ip : String} (hmem : ip∈held) : (l.release ip).Holds (held.erase ip) := by
  have hcount (ip' : String) : (held.map keyOf).count ip'=
      ((held.erase ip).map keyOf).count ip'+if keyOf ip=ip' then 1 else 0 := by
    rw [((perm_cons_erase hmem).map keyOf).count_eq,map_cons,count_cons]
    simp
  have hc:=h.count (keyOf ip)
  have hpos : 0<(held.map keyOf).count (keyOf ip) := by
    rw [hcount]
    simp
  have hne : l.countOf (keyOf ip)≠0 := by omega
  have hsum:=sum_delete h.nodup (keyOf ip)
  have htotal:=h.sum
  have hlen:=length_erase_of_mem hmem
  have hsome:=length_pos_of_mem hmem
  have hheld:=h.length
  unfold release
  simp only [hne,if_false]
  constructor
  · split
    · exact SyncMap.nodup_store h.nodup _ _
    · exact SyncMap.nodup_delete h.nodup _
  · unfold counts countOf at *
    simp only
    split
    · simp only [SyncMap.store,map_cons,sum_cons]
      omega
    · omega
  · simp only
    omega
  · intro ip'
    have hc':=h.count ip'
    rw [hcount] at hc'
    unfold countOf
    simp only
    split
    · rw [count_store]
      by_cases he : ip'=keyOf ip
      · subst he
        unfold countOf at *
        simp only [if_true] at hc' ⊢
        omega
      · have he' : ¬keyOf ip=ip' := fun h => he h.symm
        simpa [he,he'] using hc'
    · rw [count_delete]
      by_cases he : ip'=keyOf ip
      · subst he
        unfold countOf at *
        simp only [if_true] at hc' ⊢
        omega
      · have he' : ¬keyOf ip=ip' := fun h => he h.symm
        simpa [he,he'] using hc'
  · intro e he
    simp only at he
    split at he
    · rcases SyncMap.mem_store he with rfl | he
      · simp only
        omega
      · exact h.positive e he
    · exact h.positive e (SyncMap.mem_delete he)
  · intro hg
    have hg':=h.global hg
    simp only
    omega
  · intro hp ip'
    have hall:=h.perIP hp
    have hmax:=hall (keyOf ip)
    unfold countOf at *
    simp only at hp ⊢
    split
    · rw [count_store]
      split
      · omega
      · exact hall ip'
    · rw [count_delete]
      split
      · omega
      · exact hall ip'

theorem Holds.empty (h : l.Holds []) : l=new l.maxGlobal l.maxPerIP := by
  have hnone : l.byIP=[] := by
    rw [eq_nil_iff_forall_not_mem]
    intro e he
    have hone:=h.positive e he
    have hc:=h.count e.1
    rw [h.entry he] at hc
    simp at hc
    omega
  have htotal:=h.length
  cases l
  simp_all [new]

theorem Holds.bounds (h : l.Holds held) {n : ℤ} (hn : n∈l.counts) : 1≤n ∧ (0<l.maxPerIP → n≤l.maxPerIP) := by
  obtain ⟨e,he,rfl⟩:=mem_map.mp hn
  refine ⟨h.positive e he,?_⟩
  intro hp
  rw [← h.entry he]
  exact h.perIP hp e.1

end AuthWaitLimiter

namespace AuthWait
open AuthWaitLimiter
variable {maxGlobal maxPerIP : ℤ} {s : AuthWait}

def Backed (maxGlobal maxPerIP : ℤ) (s : AuthWait) : Prop :=
  ∃ l, s.limiter=some l ∧ l.Holds s.held ∧ l.maxGlobal=maxGlobal ∧ l.maxPerIP=maxPerIP

theorem Backed.step (h : s.Backed maxGlobal maxPerIP) (c : WaitCall) : (s.step c).Backed maxGlobal maxPerIP := by
  obtain ⟨l,hl,hh,hg,hp⟩:=h
  cases c with
  | acquire ip =>
    simp only [AuthWait.step,hl,acquire]
    split
    · exact ⟨l,rfl,hh,hg,hp⟩
    · split
      · exact ⟨l,rfl,hh,hg,hp⟩
      · exact ⟨_,rfl,hh.acquired ‹_› ‹_›,hg,hp⟩
  | release ip =>
    simp only [AuthWait.step]
    split
    · rename_i hmem
      refine ⟨l.release ip,by simp [hl],hh.released hmem,?_⟩
      unfold release
      simp only
      split
      · exact ⟨hg,hp⟩
      · exact ⟨hg,hp⟩
    · exact ⟨l,hl,hh,hg,hp⟩

theorem Backed.run (h : s.Backed maxGlobal maxPerIP) (calls : List WaitCall) : (s.run calls).Backed maxGlobal maxPerIP := by
  induction calls generalizing s with
  | nil => exact h
  | cons c calls ih => exact ih (h.step c)

/-- Whatever calls come in whatever order: the counters agree, keep to their limits and are
empty once every slot is given back. A nil limiter hands out no slot. -/
theorem counters_agree (maxGlobal maxPerIP : ℤ) (calls : List WaitCall) :
    (∃ l, (run ⟨some (new maxGlobal maxPerIP),[]⟩ calls).limiter=some l ∧ l.total=l.counts.sum ∧
      (0 < maxGlobal → l.total ≤ maxGlobal) ∧ (∀ n∈l.counts,1≤n ∧ (0 < maxPerIP → n ≤ maxPerIP)) ∧
      ((run ⟨some (new maxGlobal maxPerIP),[]⟩ calls).held=[] → l=new maxGlobal maxPerIP)) ∧
    run ⟨none,[]⟩ calls=⟨none,[]⟩ := by
  constructor
  · have hstart : Backed maxGlobal maxPerIP ⟨some (new maxGlobal maxPerIP),[]⟩ :=
      ⟨_,rfl,holds_new maxGlobal maxPerIP,rfl,rfl⟩
    obtain ⟨l,hl,hh,rfl,rfl⟩:=hstart.run calls
    refine ⟨l,hl,hh.sum,hh.global,fun n hn => hh.bounds hn,?_⟩
    intro hnone
    rw [hnone] at hh
    exact hh.empty
  · induction calls with
    | nil => rfl
    | cons c calls ih => cases c <;> exact ih

end AuthWait
end BetterDesk.Relay
