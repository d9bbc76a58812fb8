import Mathlib.Data.Int.Notation
import Mathlib.Data.List.Induction
import Mathlib.Data.List.Nodup
import BetterDesk.Lib.Exec
import BetterDesk.Lib.SyncMap

/-! # The status tiers of the peers in memory (peer/map.go) -/

namespace BetterDesk.Signal.PeerStatus
open Exec List Option

inductive ConnType where
  | udp | tcp | ws
deriving DecidableEq

/-- `unset` is the tier of an entry that is built without one. -/
inductive Status where
  | unset | online | degraded | critical | offline
deriving DecidableEq

structure Entry where
  id : String
  ip : String
  serial : Int32
  connType : ConnType
  udpAddr : Option String
  lastReg : ℤ
  heartbeatCount : Int64
  missedBeats : Int32
  lastStatusCheck : ℤ
  statusTier : Status
  ipHistory : List String

def degradedThreshold : Int32 := 2

def criticalThreshold : Int32 := 4

def heartbeatExpected : ℤ := 15*1000000000

def regTimeout : ℤ := 30*1000000000

namespace Entry

def computeStatus (e : Entry) (degradedThreshold criticalThreshold : Int32) : Status :=
  if criticalThreshold≤e.missedBeats then .critical
  else if degradedThreshold≤e.missedBeats then .degraded
  else .online

/-- The address that a heartbeat came from. The addresses before it are kept, five at most. -/
def roam (e : Entry) (newIP : String) : Entry :=
  let history:=e.ipHistory++[e.ip]
  { e with
    ipHistory := if e.ip≠"" ∧ e.ip≠newIP then history.drop (history.length-5) else e.ipHistory
    udpAddr := some newIP
    ip := newIP
    connType := if e.connType ≠ .ws then .udp else e.connType}

def updateHeartbeat (e : Entry) (addr : Option String) (serial : Int32) (now : ℤ) : Entry :=
  -- the tier is left as it was
  let e:={e with lastReg := now,serial := serial,missedBeats := 0,heartbeatCount := e.heartbeatCount+1}
  match addr with
  | none => e
  | some newIP => e.roam newIP

def touchHeartbeat (e : Entry) (now : ℤ) : Entry :=
  {e with lastReg := now,missedBeats := 0,statusTier := .online,heartbeatCount := e.heartbeatCount+1}

/-- One round of `CheckHeartbeats`: the entry after it, and the tier it is reported for. -/
def check (e : Entry) (now interval : ℤ) (degradedThreshold criticalThreshold : Int32) : Entry × Option Status :=
  if now-e.lastStatusCheck < interval then (e,none)
  else
    let e:={e with lastStatusCheck := now}
    if interval<now-e.lastReg then
      let oldStatus:=e.computeStatus degradedThreshold criticalThreshold
      let e:={e with missedBeats := e.missedBeats+1}
      let newStatus:=e.computeStatus degradedThreshold criticalThreshold
      ({e with statusTier := newStatus},if newStatus≠oldStatus then some newStatus else none)
    else ({e with missedBeats := 0,statusTier := .online},none)

end Entry

structure PeerMap where
  entries : SyncMap String Entry
  totalRegistrations : ℕ
  totalExpired : ℕ

/-- The entries while `CheckHeartbeats` goes through them, and what it has to report. -/
structure Checked where
  entries : SyncMap String Entry
  degraded : List String
  critical : List String

def Checked.next (now interval : ℤ) (degradedThreshold criticalThreshold : Int32) (r : Checked) (id : String) : Checked :=
  match r.entries.load id with
  | none => r
  | some e =>
    let (e',newly):=e.check now interval degradedThreshold criticalThreshold
    ⟨r.entries.store id e',if newly=some .degraded then r.degraded++[e'.id] else r.degraded,
      if newly=some .critical then r.critical++[e'.id] else r.critical⟩

namespace PeerMap

def empty : PeerMap := ⟨[],0,0⟩

variable (m : PeerMap)

def put (e : Entry) : PeerMap :=
  { m with
    entries := m.entries.store e.id e
    totalRegistrations := if (m.entries.load e.id).isNone then m.totalRegistrations+1 else m.totalRegistrations}

def modify (id : String) (f : Entry → Entry) : Bool × PeerMap :=
  match m.entries.load id with
  | none => (false,m)
  | some e => (true,{m with entries := m.entries.store id (f e)})

def updateHeartbeat (id : String) (addr : Option String) (serial : Int32) (now : ℤ) : Bool × PeerMap :=
  m.modify id fun e => e.updateHeartbeat addr serial now

def touchHeartbeat (id : String) (now : ℤ) : Bool × PeerMap := m.modify id fun e => e.touchHeartbeat now

def remove (id : String) : Option Entry × PeerMap :=
  (m.entries.load id,{m with entries := m.entries.delete id})

def rename (oldID newID : String) : Option Entry × PeerMap :=
  match m.entries.load oldID with
  | none => (none,m)
  | some e =>
    if oldID=newID then (some e,m)
    else if (m.entries.load newID).isSome then (none,m)
    else (some {e with id := newID},{m with entries := (m.entries.delete oldID).store newID {e with id := newID}})

/-- The peers whose last check is an interval ago, in the order in which the map is gone through. -/
def due (order : List String) (now interval : ℤ) : List String :=
  order.filter fun id => (m.entries.load id).any fun e => interval≤now-e.lastStatusCheck

def checkHeartbeats (order : List String) (now interval : ℤ) (degradedThreshold criticalThreshold : Int32) : Checked :=
  (m.due order now interval).foldl (Checked.next now interval degradedThreshold criticalThreshold) ⟨m.entries,[],[]⟩

def cleanExpired (order : List String) (now : String → ℤ) (timeout : ℤ) : List String × PeerMap :=
  let isExpired (id : String) (e : Entry) : Bool := timeout<now id-e.lastReg
  let expired:=order.filter fun id => (m.entries.load id).any (isExpired id)
  (expired,{m with
    entries := m.entries.filter fun x => !isExpired x.1 x.2
    totalExpired := m.totalExpired+expired.length})

end PeerMap

/-- A call of `CheckHeartbeats`. -/
structure Check where
  before : SyncMap String Entry
  result : Checked

structure State where
  peers : PeerMap
  checks : List Check

def State.start : State := ⟨.empty,[]⟩

inductive Event where
  | put (e : Entry)
  | updateHeartbeat (id : String) (addr : Option String) (serial : Int32) (now : ℤ)
  | touchHeartbeat (id : String) (now : ℤ)
  | checkHeartbeats (order : List String) (now : ℤ)
  | rename (oldID newID : String)
  | remove (id : String)
  | cleanExpired (order : List String) (now : String → ℤ)

def step (s : State) : Event → Option State
  | .put e => some {s with peers := s.peers.put e}
  | .updateHeartbeat id addr serial now => some {s with peers := (s.peers.updateHeartbeat id addr serial now).2}
  | .touchHeartbeat id now => some {s with peers := (s.peers.touchHeartbeat id now).2}
  | .checkHeartbeats order now =>
    if order.Perm (s.peers.entries.map Prod.fst) then
      let r:=s.peers.checkHeartbeats order now heartbeatExpected degradedThreshold criticalThreshold
      some ⟨{s.peers with entries := r.entries},s.checks++[⟨s.peers.entries,r⟩]⟩
    else none
  | .rename oldID newID => some {s with peers := (s.peers.rename oldID newID).2}
  | .remove id => some {s with peers := (s.peers.remove id).2}
  | .cleanExpired order now =>
    if order.Perm (s.peers.entries.map Prod.fst) then
      some {s with peers := (s.peers.cleanExpired order now regTimeout).2}
    else none

def Entry.tierSound (e : Entry) : Prop := e.statusTier=e.computeStatus degradedThreshold criticalThreshold

def Check.crosses (c : Check) (threshold : Int32) (id : String) : Prop :=
  ∃ old new, c.before.load id=some old ∧ c.result.entries.load id=some new ∧
    old.missedBeats<threshold ∧ threshold≤new.missedBeats

structure Check.Exact (c : Check) : Prop where
  degraded : ∀ id, id∈c.result.degraded ↔ c.crosses degradedThreshold id
  critical : ∀ id, id∈c.result.critical ↔ c.crosses criticalThreshold id
  degradedOnce : c.result.degraded.Nodup
  criticalOnce : c.result.critical.Nodup

structure Sound (s : State) : Prop where
  keys : ∀ id e, s.peers.entries.load id=some e → e.id=id
  tiers : ∀ id e, s.peers.entries.load id=some e → e.tierSound
  exact : ∀ c∈s.checks,c.Exact

/-- What is put has the tier of its count, and a heartbeat finds its peer online. -/
def StepOk (s : State) : Event → Prop
  | .put e => e.tierSound
  | .updateHeartbeat id _ _ _ => ∀ e, s.peers.entries.load id=some e → e.statusTier=.online
  | _ => True

namespace Entry

variable (e : Entry)

theorem updateHeartbeat_id (addr : Option String) (serial : Int32) (now : ℤ) :
    (e.updateHeartbeat addr serial now).id=e.id := by
  cases addr <;> rfl

theorem updateHeartbeat_missedBeats (addr : Option String) (serial : Int32) (now : ℤ) :
    (e.updateHeartbeat addr serial now).missedBeats=0 := by
  cases addr <;> rfl

theorem updateHeartbeat_statusTier (addr : Option String) (serial : Int32) (now : ℤ) :
    (e.updateHeartbeat addr serial now).statusTier=e.statusTier := by
  cases addr <;> rfl

theorem computeStatus_zero {e : Entry} (h : e.missedBeats=0) :
    e.computeStatus degradedThreshold criticalThreshold=.online := by
  simp only [computeStatus,h]
  decide

theorem updateHeartbeat_tierSound (addr : Option String) (serial : Int32) (now : ℤ) :
    (e.updateHeartbeat addr serial now).tierSound ↔ e.statusTier=.online := by
  unfold tierSound
  rw [computeStatus_zero (e.updateHeartbeat_missedBeats addr serial now),updateHeartbeat_statusTier]

theorem touchHeartbeat_tierSound (now : ℤ) : (e.touchHeartbeat now).tierSound :=
  (computeStatus_zero rfl).symm

theorem check_id (now interval : ℤ) (d c : Int32) : (e.check now interval d c).1.id=e.id := by
  unfold check
  split
  · rfl
  · dsimp only
    split <;> rfl

theorem check_tierSound {e : Entry} (h : e.tierSound) (now interval : ℤ) :
    (e.check now interval degradedThreshold criticalThreshold).1.tierSound := by
  unfold check
  split
  · exact h
  · dsimp only
    split
    · rfl
    · exact (computeStatus_zero rfl).symm

theorem newly_iff (b : Int32) (e e' : Entry) (he : e.missedBeats=b) (he' : e'.missedBeats=b+1) :
    ((if e'.computeStatus degradedThreshold criticalThreshold≠e.computeStatus degradedThreshold criticalThreshold
        then some (e'.computeStatus degradedThreshold criticalThreshold) else none)=some .degraded ↔
      b<degradedThreshold ∧ degradedThreshold≤b+1) ∧
    ((if e'.computeStatus degradedThreshold criticalThreshold≠e.computeStatus degradedThreshold criticalThreshold
        then some (e'.computeStatus degradedThreshold criticalThreshold) else none)=some .critical ↔
      b<criticalThreshold ∧ criticalThreshold≤b+1) := by
  unfold computeStatus degradedThreshold criticalThreshold
  rw [he,he']
  constructor <;> grind

theorem check_newly (now interval : ℤ) :
    let r:=e.check now interval degradedThreshold criticalThreshold
    (r.2=some .degraded ↔ e.missedBeats<degradedThreshold ∧ degradedThreshold≤r.1.missedBeats) ∧
    (r.2=some .critical ↔ e.missedBeats<criticalThreshold ∧ criticalThreshold≤r.1.missedBeats) := by
  unfold check
  split
  · dsimp only [degradedThreshold,criticalThreshold]
    constructor <;> grind
  · dsimp only
    split
    · exact newly_iff e.missedBeats _ _ rfl rfl
    · dsimp only [degradedThreshold,criticalThreshold]
      constructor <;> grind

end Entry

section Loop
variable (now interval : ℤ) (d c : Int32)

theorem next_load (r : Checked) (id k : String) :
    (r.next now interval d c id).entries.load k =
      if k=id then (r.entries.load k).map fun e => (e.check now interval d c).1 else r.entries.load k := by
  unfold Checked.next
  by_cases hk : k=id
  · subst hk
    rw [if_pos rfl]
    cases hl : r.entries.load k with
    | none => exact hl
    | some e => exact SyncMap.load_store_self _ _ _
  · rw [if_neg hk]
    cases hl : r.entries.load id with
    | none => rfl
    | some e => exact SyncMap.load_store_of_ne _ _ hk

def reported (m : SyncMap String Entry) (tier : Status) (id : String) : Option String :=
  (m.load id).bind fun e => if (e.check now interval d c).2=some tier then some e.id else none

theorem next_reports (r : Checked) (id : String) :
    (r.next now interval d c id).degraded=r.degraded++(reported now interval d c r.entries .degraded id).toList ∧
    (r.next now interval d c id).critical=r.critical++(reported now interval d c r.entries .critical id).toList := by
  unfold Checked.next reported
  cases hl : r.entries.load id with
  | none => simp
  | some e =>
    simp only [bind_some,e.check_id]
    constructor <;> split <;> simp

theorem loop_spec (m : SyncMap String Entry) {ids : List String} (h : ids.Nodup) :
    let r:=ids.foldl (Checked.next now interval d c) ⟨m,[],[]⟩
    (∀ k, r.entries.load k = if k∈ids then (m.load k).map fun e => (e.check now interval d c).1 else m.load k) ∧
    r.degraded=ids.filterMap (reported now interval d c m .degraded) ∧
    r.critical=ids.filterMap (reported now interval d c m .critical) := by
  induction ids using List.reverseRecOn with
  | nil => simp
  | append_singleton ids id ih =>
    obtain ⟨hids,-,hapart⟩:=nodup_append.mp h
    have hnew : id∉ids := fun hmem => hapart id hmem id (mem_singleton_self id) rfl
    obtain ⟨hload,hdeg,hcrit⟩:=ih hids
    have hlast (tier : Status) : [id].filterMap (reported now interval d c m tier) =
        (reported now interval d c m tier id).toList := by
      cases hr : reported now interval d c m tier id <;> simp [hr]
    simp only [foldl_append,foldl_cons,foldl_nil]
    have hid:=hload id
    rw [if_neg hnew] at hid
    obtain ⟨hd,hc⟩:=next_reports now interval d c (ids.foldl (Checked.next now interval d c) ⟨m,[],[]⟩) id
    unfold reported at hd hc
    rw [hid] at hd hc
    refine ⟨fun k => ?_,?_,?_⟩
    · rw [next_load]
      by_cases hk : k=id
      · subst hk
        simp [hid]
      · simp [hk,hload k]
    · rw [hd,hdeg,filterMap_append,hlast]
      rfl
    · rw [hc,hcrit,filterMap_append,hlast]
      rfl

theorem reported_iff {m : SyncMap String Entry} (hkeys : ∀ id e, m.load id=some e → e.id=id) (tier : Status)
    (k id : String) : reported now interval d c m tier k=some id ↔
      k=id ∧ ∃ e, m.load id=some e ∧ (e.check now interval d c).2=some tier := by
  unfold reported
  rw [bind_eq_some_iff]
  constructor
  · rintro ⟨e,he,hr⟩
    obtain ⟨htier,hid⟩:=ite_none_right_eq_some.mp hr
    have hk : k=id := (hkeys k e he).symm.trans (Option.some.inj hid)
    exact ⟨hk,e,hk ▸ he,htier⟩
  · rintro ⟨rfl,e,he,htier⟩
    exact ⟨e,he,by rw [if_pos htier,hkeys k e he]⟩

end Loop

def Tidy (m : SyncMap String Entry) : Prop := ∀ id e, m.load id=some e → e.id=id ∧ e.tierSound

theorem tidy_store {m : SyncMap String Entry} (h : Tidy m) (id : String) (e : Entry) :
    Tidy (m.store id e) ↔ e.id=id ∧ e.tierSound := by
  constructor
  · intro hall
    exact hall id e (SyncMap.load_store_self m id e)
  · intro he k e' hk
    rcases SyncMap.of_load_store hk with ⟨rfl,rfl⟩ | ⟨-,hk⟩
    · exact he
    · exact h k e' hk

theorem tidy_delete {m : SyncMap String Entry} (h : Tidy m) (id : String) : Tidy (m.delete id) := by
  intro k e hk
  by_cases hkid : k=id
  · subst hkid
    rw [SyncMap.load_delete_self] at hk
    cases hk
  · rw [SyncMap.load_delete_of_ne _ hkid] at hk
    exact h k e hk

variable {m : PeerMap} {order : List String}

theorem tidy_modify (h : Tidy m.entries) (id : String) {f : Entry → Entry} (hf : ∀ e, (f e).id=e.id) :
    Tidy (m.modify id f).2.entries ↔ ∀ e, m.entries.load id=some e → (f e).tierSound := by
  unfold PeerMap.modify
  cases hl : m.entries.load id with
  | none => exact iff_of_true h (fun e he => nomatch he)
  | some e =>
    have hid : (f e).id=id := (hf e).trans (h id e hl).1
    simp [tidy_store h,hid]

theorem tidy_rename (h : Tidy m.entries) (oldID newID : String) : Tidy (m.rename oldID newID).2.entries := by
  unfold PeerMap.rename
  cases hl : m.entries.load oldID with
  | none => exact h
  | some e =>
    dsimp only
    split
    · exact h
    · split
      · exact h
      · exact (tidy_store (tidy_delete h oldID) newID _).mpr ⟨rfl,(h oldID e hl).2⟩

theorem tidy_cleanExpired (hnodup : (m.entries.map Prod.fst).Nodup) (h : Tidy m.entries)
    (order : List String) (now : String → ℤ) (timeout : ℤ) : Tidy (m.cleanExpired order now timeout).2.entries := by
  intro id e he
  have hmem:=mem_of_mem_filter (SyncMap.mem_of_load he)
  exact h id e (SyncMap.load_of_mem hnodup hmem)

theorem due_nodup (h : order.Nodup) (now interval : ℤ) : (m.due order now interval).Nodup := h.filter _

theorem tidy_checkHeartbeats (h : Tidy m.entries) (horder : order.Nodup) (now interval : ℤ) :
    Tidy (m.checkHeartbeats order now interval degradedThreshold criticalThreshold).entries := by
  obtain ⟨hload,-,-⟩:=loop_spec now interval degradedThreshold criticalThreshold m.entries
    (due_nodup (m := m) horder now interval)
  intro k e hk
  have hk':=(hload k).symm.trans hk
  split at hk'
  · obtain ⟨e0,he0,rfl⟩:=map_eq_some_iff.mp hk'
    obtain ⟨hid,htier⟩:=h k e0 he0
    exact ⟨(e0.check_id now interval _ _).trans hid,Entry.check_tierSound htier now interval⟩
  · exact h k e hk'

theorem Tidy.keys {m : SyncMap String Entry} (h : Tidy m) : ∀ id e, m.load id=some e → e.id=id :=
  fun id e he => (h id e he).1

theorem mem_reports (h : Tidy m.entries) (horder : order.Nodup) (now interval : ℤ)
    {threshold : Int32} {tier : Status} (hnewly : ∀ e : Entry,
      (e.check now interval degradedThreshold criticalThreshold).2=some tier ↔ e.missedBeats<threshold ∧
        threshold≤(e.check now interval degradedThreshold criticalThreshold).1.missedBeats) (id : String) :
    id∈(m.due order now interval).filterMap
        (reported now interval degradedThreshold criticalThreshold m.entries tier) ↔
      Check.crosses ⟨m.entries,m.checkHeartbeats order now interval degradedThreshold criticalThreshold⟩ threshold id := by
  obtain ⟨hload,-,-⟩:=loop_spec now interval degradedThreshold criticalThreshold m.entries
    (due_nodup (m := m) horder now interval)
  rw [mem_filterMap]
  constructor
  · rintro ⟨k,hk,hr⟩
    obtain ⟨rfl,e,he,htier⟩:=(reported_iff _ _ _ _ h.keys tier k id).mp hr
    refine ⟨e,(e.check now interval degradedThreshold criticalThreshold).1,he,?_,(hnewly e).mp htier⟩
    refine (hload k).trans ?_
    rw [if_pos hk,he]
    rfl
  · rintro ⟨old,new,hold,hnew,hlt,hle⟩
    have hnew':=(hload id).symm.trans hnew
    split at hnew'
    case isTrue hmem =>
      rw [hold] at hnew'
      have hsame : (old.check now interval degradedThreshold criticalThreshold).1=new := Option.some.inj hnew'
      have htier:=(hnewly old).mpr ⟨hlt,hsame.symm ▸ hle⟩
      exact ⟨id,hmem,(reported_iff _ _ _ _ h.keys tier id id).mpr ⟨rfl,old,hold,htier⟩⟩
    case isFalse =>
      have hsame:=Option.some.inj (hold.symm.trans hnew')
      rw [hsame] at hlt
      exact absurd hle (Int32.not_le.mpr hlt)

theorem reports_nodup (h : Tidy m.entries) (horder : order.Nodup) (now interval : ℤ)
    (tier : Status) : ((m.due order now interval).filterMap
      (reported now interval degradedThreshold criticalThreshold m.entries tier)).Nodup := by
  apply List.Nodup.filterMap _ (due_nodup horder now interval)
  intro k k' id hk hk'
  have hl:=((reported_iff _ _ _ _ h.keys tier k id).mp hk).1
  have hr:=((reported_iff _ _ _ _ h.keys tier k' id).mp hk').1
  exact hl.trans hr.symm

theorem check_exact (h : Tidy m.entries) (horder : order.Nodup) (now interval : ℤ) :
    Check.Exact ⟨m.entries,m.checkHeartbeats order now interval degradedThreshold criticalThreshold⟩ := by
  obtain ⟨-,hdeg,hcrit⟩:=loop_spec now interval degradedThreshold criticalThreshold m.entries
    (due_nodup (m := m) horder now interval)
  constructor
  · intro id
    exact hdeg ▸ mem_reports h horder now interval (fun e => (e.check_newly now interval).1) id
  · intro id
    exact hcrit ▸ mem_reports h horder now interval (fun e => (e.check_newly now interval).2) id
  · exact hdeg ▸ reports_nodup h horder now interval .degraded
  · exact hcrit ▸ reports_nodup h horder now interval .critical

structure Inv (s : State) : Prop where
  nodup : (s.peers.entries.map Prod.fst).Nodup
  tidy : Tidy s.peers.entries
  exact : ∀ c∈s.checks,c.Exact

theorem sound_iff (s : State) : Sound s ↔ Tidy s.peers.entries ∧ ∀ c∈s.checks,c.Exact := by
  constructor
  · intro h
    exact ⟨fun id e he => ⟨h.keys id e he,h.tiers id e he⟩,h.exact⟩
  · intro ⟨ht,hc⟩
    exact ⟨ht.keys,fun id e he => (ht id e he).2,hc⟩

theorem next_nodup (now interval : ℤ) (d c : Int32) {r : Checked} (h : (r.entries.map Prod.fst).Nodup) (id : String) :
    ((r.next now interval d c id).entries.map Prod.fst).Nodup := by
  unfold Checked.next
  cases r.entries.load id with
  | none => exact h
  | some e => exact SyncMap.nodup_store h _ _

theorem loop_nodup (now interval : ℤ) (d c : Int32) {m : SyncMap String Entry} (h : (m.map Prod.fst).Nodup)
    (ids : List String) : ((ids.foldl (Checked.next now interval d c) ⟨m,[],[]⟩).entries.map Prod.fst).Nodup := by
  induction ids using List.reverseRecOn with
  | nil => exact h
  | append_singleton ids id ih =>
    rw [foldl_append]
    exact next_nodup now interval d c ih id

theorem modify_nodup (h : (m.entries.map Prod.fst).Nodup) (id : String) (f : Entry → Entry) :
    ((m.modify id f).2.entries.map Prod.fst).Nodup := by
  unfold PeerMap.modify
  cases m.entries.load id with
  | none => exact h
  | some e => exact SyncMap.nodup_store h _ _

theorem rename_nodup (h : (m.entries.map Prod.fst).Nodup) (oldID newID : String) :
    ((m.rename oldID newID).2.entries.map Prod.fst).Nodup := by
  unfold PeerMap.rename
  cases m.entries.load oldID with
  | none => exact h
  | some e =>
    dsimp only
    split
    · exact h
    · split
      · exact h
      · exact SyncMap.nodup_store (SyncMap.nodup_delete h oldID) newID _

theorem step_nodup {s t : State} {a : Event} (h : (s.peers.entries.map Prod.fst).Nodup) (ht : step s a=some t) :
    (t.peers.entries.map Prod.fst).Nodup := by
  cases a with
  | put e =>
    cases ht
    exact SyncMap.nodup_store h _ _
  | updateHeartbeat id | touchHeartbeat id =>
    cases ht
    exact modify_nodup h id _
  | checkHeartbeats order now =>
    obtain ⟨-,ht⟩:=ite_none_right_eq_some.mp ht
    cases ht
    exact loop_nodup now heartbeatExpected _ _ h _
  | rename oldID newID =>
    cases ht
    exact rename_nodup h oldID newID
  | remove id =>
    cases ht
    exact SyncMap.nodup_delete h id
  | cleanExpired order now =>
    obtain ⟨-,ht⟩:=ite_none_right_eq_some.mp ht
    cases ht
    exact SyncMap.nodup_filter h _

theorem step_sound_iff {s : State} (h : Inv s) (a : Event) : (∀ t, step s a=some t → Sound t) ↔ StepOk s a := by
  obtain ⟨hnodup,htidy,hexact⟩:=h
  -- the events that leave the checks as they are
  have hpeers (m : PeerMap) : (∀ t, some {s with peers := m}=some t → Sound t) ↔ Tidy m.entries := by
    simp [sound_iff]
    intro _
    exact hexact
  cases a with
  | put e => exact (hpeers _).trans ((tidy_store htidy e.id e).trans (and_iff_right rfl))
  | updateHeartbeat id addr serial now =>
    refine (hpeers _).trans ((tidy_modify htidy id fun e => e.updateHeartbeat_id addr serial now).trans ?_)
    simp only [Entry.updateHeartbeat_tierSound,StepOk]
  | touchHeartbeat id now =>
    have hid (e : Entry) : (e.touchHeartbeat now).id=e.id := rfl
    exact iff_of_true ((hpeers _).mpr ((tidy_modify htidy id hid).mpr fun e _ => e.touchHeartbeat_tierSound now)) trivial
  | checkHeartbeats order now =>
    refine iff_of_true (fun t ht => ?_) trivial
    obtain ⟨hperm,ht⟩:=ite_none_right_eq_some.mp ht
    have horder:=hperm.nodup_iff.mpr hnodup
    cases ht
    refine (sound_iff _).mpr ⟨tidy_checkHeartbeats htidy horder now heartbeatExpected,fun c hc => ?_⟩
    obtain hc | hc:=mem_append.mp hc
    · exact hexact c hc
    · rw [mem_singleton.mp hc]
      exact check_exact htidy horder now heartbeatExpected
  | rename oldID newID => exact iff_of_true ((hpeers _).mpr (tidy_rename htidy oldID newID)) trivial
  | remove id => exact iff_of_true ((hpeers _).mpr (tidy_delete htidy id)) trivial
  | cleanExpired order now =>
    refine iff_of_true (fun t ht => ?_) trivial
    obtain ⟨-,ht⟩:=ite_none_right_eq_some.mp ht
    exact (hpeers _).mpr (tidy_cleanExpired hnodup htidy order now regTimeout) t ht

/-- The map stays consistent through a run exactly when what is put has the tier of its count and
the heartbeats find their peers online. -/
theorem consistent_iff (es : List Event) :
    (∀ pre, pre <+: es → ∀ s, exec step .start pre=some s → Sound s) ↔ Along step StepOk .start es := by
  have hinv : Inv .start := ⟨nodup_nil,(fun id e he => nomatch he),(fun c hc => nomatch hc)⟩
  have hstart : Sound .start := (sound_iff _).mpr ⟨hinv.tidy,hinv.exact⟩
  rw [along_reached_iff hstart]
  refine along_iff_of_keep Inv ?_ (fun s a h => step_sound_iff h a) hinv
  intro s a t h hall ht
  obtain ⟨htidy,hexact⟩:=(sound_iff t).mp (hall t ht)
  exact ⟨step_nodup h.nodup ht,htidy,hexact⟩

def newPeer (tier : Status) : Entry := ⟨"A","",0,.udp,none,0,1,0,0,tier,[]⟩

def silent : List Event :=
  [.put (newPeer .online),.checkHeartbeats ["A"] (16*1000000000),.checkHeartbeats ["A"] (32*1000000000)]

def tierOf (es : List Event) : Option (Int32 × Status) :=
  (exec step .start es).bind fun s => (s.peers.entries.load "A").map fun e => (e.missedBeats,e.statusTier)

/-- A peer that was degraded keeps that tier after its heartbeat, and one that is put without a tier
has none. -/
theorem stale_tier : (¬ ∀ (es : List Event) (s : State), exec step .start es=some s → Sound s) ∧
    tierOf (silent++[.updateHeartbeat "A" none 1 (33*1000000000)])=some (0,.degraded) ∧
    tierOf [.put (newPeer .unset)]=some (0,.unset) := by
  have hstale : tierOf (silent++[.updateHeartbeat "A" none 1 (33*1000000000)])=some (0,.degraded) := by
    decide
  refine ⟨fun hall => ?_,hstale,by decide⟩
  obtain ⟨s,hs,he⟩:=bind_eq_some_iff.mp hstale
  obtain ⟨e,he,htier⟩:=map_eq_some_iff.mp he
  have hsound:=(hall _ s hs).tiers "A" e he
  obtain ⟨hbeats,htier⟩:=Prod.mk.inj htier
  unfold Entry.tierSound at hsound
  rw [Entry.computeStatus_zero hbeats,htier] at hsound
  cases hsound

end BetterDesk.Signal.PeerStatus
