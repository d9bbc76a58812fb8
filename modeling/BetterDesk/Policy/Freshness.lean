import BetterDesk.Lib.Exec
import BetterDesk.Policy.Network

/-! # Lookups of the network policy that run together (policy/network.go) -/

namespace BetterDesk.Policy.Freshness
open Db Exec Option Function

abbrev LookupID := ℕ

/-- Settings as they were read: after so many changes of the organization's settings, and so many of
its invalidations. -/
structure Reading where
  org : OrgID
  settings : NetworkSettings
  changes : ℕ
  invalidations : ℕ
  deriving DecidableEq

structure CachedReading where
  reading : Reading
  expires : ℕ

inductive Stage
  | entered
  | missed
  | belongs (org : OrgID)
  | querying (org : OrgID)
  | queried (r : Reading)
  | found (r : Reading)
  deriving DecidableEq

structure Lookup where
  deviceID : PeerID
  stage : Stage
  /-- The invalidations that had returned when it started. -/
  started : OrgID → ℕ

structure Use where
  time : ℕ
  reading : Reading
  started : ℕ

structure Resolver where
  now : ℕ
  tables : Tables
  org : OrgID → Option CachedReading
  dev : PeerID → Option CachedReading
  mu : Option LookupID
  lookups : LookupID → Option Lookup
  /-- When the settings of an organization were replaced. -/
  changed : OrgID → List ℕ
  invalidated : OrgID → ℕ
  uses : List Use

inductive Access
  | lookDevice
  | queryOrg (fails : Bool)
  | lookOrg
  | querySettings (fails : Bool)
  | storeOrg
  | storeDevice

inductive Action
  | advance (d : ℕ)
  | setOrgSetting (org : OrgID) (settings : Answer NetworkSettings)
  | setDeviceOrg (id : PeerID) (org : Answer OrgID)
  | invalidateOrg (org : OrgID)
  | enter (l : LookupID) (deviceID : PeerID)
  | access (l : LookupID) (a : Access)

namespace Resolver
variable (s : Resolver)

def init (tables : Tables) (now : ℕ) : Resolver where
  now := now
  tables := tables
  org := fun _ => none
  dev := fun _ => none
  mu := none
  lookups := fun _ => none
  changed := fun _ => []
  invalidated := fun _ => 0
  uses := []

def live (entry : Option CachedReading) : Option Reading :=
  (entry.filter fun ce => s.now<ce.expires).map CachedReading.reading

def goes (l : LookupID) (lookup : Lookup) (stage : Stage) : Resolver :=
  {s with lookups := update s.lookups l (some {lookup with stage := stage})}

def returns (l : LookupID) (lookup : Lookup) (r : Reading) : Resolver :=
  { s with
    lookups := update s.lookups l none
    uses := s.uses++[⟨s.now,r,lookup.started r.org⟩]}

def reads (org : OrgID) (settings : NetworkSettings) : Reading := ⟨org,settings,(s.changed org).length,s.invalidated org⟩

def queriedOrg (deviceID : PeerID) (fails : Bool) : OrgID :=
  match s.tables.deviceOrg deviceID with
  | .ok org => if fails then "" else org
  | .error _ => ""

def queriedSettings (org : OrgID) (fails : Bool) : NetworkSettings :=
  match s.tables.orgSetting org with
  | .ok settings => if fails then .none else settings
  | .error _ => .none

/-- The next access of a lookup; it has the mutex from `lookOrg` to `storeOrg`. -/
def access (l : LookupID) (lk : Lookup) : Access → Option Resolver
  | .lookDevice =>
    if lk.stage=.entered ∧ s.mu=none then
      match s.live (s.dev lk.deviceID) with
      | some r => some (s.returns l lk r)
      | none => some (s.goes l lk .missed)
    else none
  | .queryOrg fails =>
    if lk.stage=.missed then some (s.goes l lk (.belongs (s.queriedOrg lk.deviceID fails))) else none
  | .lookOrg => match lk.stage with
    | .belongs org =>
      if org="" then some (s.goes l lk (.found (s.reads "" .none)))
      else if s.mu=none then
        match s.live (s.org org) with
        | some r => some (s.goes l lk (.found r))
        | none => some {s.goes l lk (.querying org) with mu := some l}
      else none
    | _ => none
  | .querySettings fails => match lk.stage with
    | .querying org => some (s.goes l lk (.queried (s.reads org (s.queriedSettings org fails))))
    | _ => none
  | .storeOrg => match lk.stage with
    | .queried r => some {s.goes l lk (.found r) with
        org := update s.org r.org (some ⟨r,s.now+ttl⟩)
        mu := none}
    | _ => none
  | .storeDevice => match lk.stage with
    | .found r =>
      if s.mu=none then
        some {s.returns l lk r with dev := update s.dev lk.deviceID (some ⟨r,s.now+ttl⟩)}
      else none
    | _ => none

def step : Action → Option Resolver
  | .advance d => some {s with now := s.now+d}
  | .setOrgSetting org settings => some {s with
      tables := {s.tables with orgSetting := update s.tables.orgSetting org settings}
      changed := update s.changed org (s.changed org++[s.now])}
  | .setDeviceOrg id org => some {s with
      tables := {s.tables with deviceOrg := update s.tables.deviceOrg id org}}
  | .invalidateOrg org =>
    if s.mu=none then
      some {s with
        org := update s.org org none
        dev := fun _ => none
        invalidated := update s.invalidated org (s.invalidated org+1)}
    else none
  | .enter l deviceID =>
    if deviceID="" ∨ (s.lookups l).isSome then none
    else some {s with lookups := update s.lookups l (some ⟨deviceID,.entered,s.invalidated⟩)}
  | .access l a => (s.lookups l).bind fun lk => s.access l lk a

def replaced (r : Reading) : Option ℕ := (s.changed r.org)[r.changes]?

structure Fresh (u : Use) : Prop where
  ttl : u.reading.org≠"" → ∀ c∈s.replaced u.reading, u.time≤c+ttl
  invalidated : u.reading.org≠"" → u.started≤u.reading.invalidations

def current (r : Reading) : Bool :=
  r.org=""||(r.changes=(s.changed r.org).length&&r.invalidations=s.invalidated r.org)

def storesCurrent : Action → Bool
  | .access l .storeDevice => match s.lookups l with
    | some ⟨_,.found r,_⟩ => s.current r
    | _ => true
  | _ => true

section
variable {s t : Resolver} {l : LookupID} {lk : Lookup} {a : Access} {r : Reading}

theorem access_some (h : s.access l lk a=some t) :
    (∃ stage org mu, t={s.goes l lk stage with org := org,mu := mu}) ∨
    (∃ r, s.live (s.dev lk.deviceID)=some r ∧ t=s.returns l lk r) ∨
    (∃ r, a=.storeDevice ∧ lk.stage=.found r ∧
      t={s.returns l lk r with dev := update s.dev lk.deviceID (some ⟨r,s.now+ttl⟩)}) := by
  cases a with
  | lookDevice =>
    simp only [access] at h
    split at h
    · split at h
      · rename_i r hr
        cases h
        exact .inr (.inl ⟨r,hr,rfl⟩)
      · cases h
        exact .inl ⟨_,_,_,rfl⟩
    · cases h
  | queryOrg | querySettings | storeOrg =>
    simp only [access] at h
    split at h
    · cases h
      exact .inl ⟨_,_,_,rfl⟩
    · cases h
  | lookOrg =>
    simp only [access] at h
    split at h
    · split at h
      · cases h
        exact .inl ⟨_,_,_,rfl⟩
      · split at h
        · split at h <;> cases h <;> exact .inl ⟨_,_,_,rfl⟩
        · cases h
    · cases h
  | storeDevice =>
    simp only [access] at h
    split at h
    · rename_i r hr
      split at h
      · cases h
        exact .inr (.inr ⟨r,rfl,hr,rfl⟩)
      · cases h
    · cases h

theorem live_some {entry : Option CachedReading} (h : s.live entry=some r) :
    ∃ ce, entry=some ce ∧ ce.reading=r ∧ s.now<ce.expires := by
  obtain ⟨ce,hce,hr⟩:=map_eq_some_iff.mp h
  obtain ⟨hentry,hlt⟩:=filter_eq_some_iff.mp hce
  exact ⟨ce,hentry,hr,by simpa using hlt⟩

def erase (s : Resolver) : NetworkResolver where
  tables := s.tables
  org := fun org => (s.org org).map fun ce => ⟨ce.reading.settings,ce.expires⟩
  dev := fun id => (s.dev id).map fun ce => ⟨ce.reading.settings,ce.expires⟩

theorem live_erase (entry : Option CachedReading) :
    NetworkResolver.live s.now (entry.map fun ce => ⟨ce.reading.settings,ce.expires⟩) =
      (s.live entry).map Reading.settings := by
  cases entry with
  | none => rfl
  | some ce =>
    by_cases h : s.now<ce.expires <;> simp [NetworkResolver.live,live,filter_some,h]

theorem erase_update {α : Type} [DecidableEq α] (f : α → Option CachedReading) (x : α) (ce : CachedReading) :
    (fun y => (update f x (some ce) y).map fun ce => (⟨ce.reading.settings,ce.expires⟩ : CachedEntry)) =
      update (fun y => (f y).map fun ce => ⟨ce.reading.settings,ce.expires⟩) x
        (some ⟨ce.reading.settings,ce.expires⟩) := by
  funext y
  by_cases hy : y=x
  · subst hy
    simp
  · simp [update_of_ne hy]

theorem orgOf_erase (id : PeerID) : s.erase.orgOf id=s.queriedOrg id false := by
  unfold NetworkResolver.orgOf queriedOrg
  dsimp only [erase]
  cases s.tables.deviceOrg id <;> rfl

theorem found_alone {id : PeerID} {started : OrgID → ℕ} {org : OrgID}
    (hl : s.lookups l=some ⟨id,.belongs org,started⟩) (hmu : s.mu=none) :
    ∃ as t r, exec step s as=some t ∧ t.lookups l=some ⟨id,.found r,started⟩ ∧ t.mu=none ∧ t.now=s.now ∧
      t.erase=(s.erase.settingsForOrg s.now org).2 ∧ r.settings=(s.erase.settingsForOrg s.now org).1 ∧ t.uses=s.uses := by
  unfold NetworkResolver.settingsForOrg
  by_cases horg : org=""
  · rw [if_pos horg]
    refine ⟨[.access l .lookOrg],s.goes l ⟨id,.belongs org,started⟩ (.found (s.reads "" .none)),s.reads "" .none,?_,?_⟩
    · simp [step,hl,access,horg]
    · exact ⟨update_self ..,hmu,rfl,rfl,rfl,rfl⟩
  · have hlive : NetworkResolver.live s.now (s.erase.org org)=_ := live_erase (s.org org)
    rw [if_neg horg,hlive]
    cases hhit : s.live (s.org org) with
    | some r =>
      refine ⟨[.access l .lookOrg],s.goes l ⟨id,.belongs org,started⟩ (.found r),r,?_,?_⟩
      · simp [step,hl,access,horg,hmu,hhit]
      · exact ⟨update_self ..,hmu,rfl,rfl,rfl,rfl⟩
    | none =>
      let r:=s.reads org (s.queriedSettings org false)
      refine ⟨[.access l .lookOrg,.access l (.querySettings false),.access l .storeOrg],
        {s.goes l ⟨id,.queried r,started⟩ (.found r) with org := update s.org org (some ⟨r,s.now+ttl⟩)},r,?_,?_⟩
      · simp [step,hl,access,horg,hmu,hhit,goes,r,reads,queriedSettings]
      · refine ⟨update_self ..,hmu,rfl,?_,?_,rfl⟩
        · have hupdate:=erase_update s.org org ⟨r,s.now+ttl⟩
          unfold erase
          dsimp only [goes]
          rw [hupdate]
          rfl
        · show s.queriedSettings org false=_
          unfold queriedSettings
          rfl

theorem lookup_alone {id : PeerID} {started : OrgID → ℕ} (hl : s.lookups l=some ⟨id,.entered,started⟩)
    (hid : id≠"") (hmu : s.mu=none) :
    ∃ as t r, exec step s as=some t ∧ t.erase=(s.erase.settingsForDevice s.now id).2 ∧
      r.settings=(s.erase.settingsForDevice s.now id).1 ∧ t.uses=s.uses++[⟨s.now,r,started r.org⟩] := by
  have hdev : NetworkResolver.live s.now (s.erase.dev id)=_ := live_erase (s.dev id)
  cases hhit : s.live (s.dev id) with
  | some r =>
    rw [hhit] at hdev
    refine ⟨[.access l .lookDevice],s.returns l ⟨id,.entered,started⟩ r,r,?_,?_⟩
    · simp [step,hl,access,hmu,hhit]
    · rw [NetworkResolver.settingsForDevice_cached hid hdev]
      exact ⟨rfl,rfl,rfl⟩
  | none =>
    rw [hhit] at hdev
    rw [NetworkResolver.settingsForDevice_eq hid hdev,orgOf_erase]
    -- the device is asked for, and then its organization
    let missed:=s.goes l ⟨id,.entered,started⟩ .missed
    let asked:=missed.goes l ⟨id,.missed,started⟩ (.belongs (s.queriedOrg id false))
    have hasked : exec step s [.access l .lookDevice,.access l (.queryOrg false)]=some asked := by
      simp [step,hl,access,hmu,hhit,goes,missed,asked,queriedOrg]
    obtain ⟨as,t,r,hrun,ht,htmu,hnow,herase,hsettings,huses⟩ :=
      found_alone (s := asked) (update_self ..) hmu
    refine ⟨[.access l .lookDevice,.access l (.queryOrg false)]++(as++[.access l .storeDevice]),
      {t.returns l ⟨id,.found r,started⟩ r with dev := update t.dev id (some ⟨r,t.now+ttl⟩)},r,?_,?_,?_,?_⟩
    · rw [exec_append,hasked,bind_some,exec_append,hrun]
      simp [step,ht,access,htmu]
    · have hupdate:=erase_update t.dev id ⟨r,t.now+ttl⟩
      have hkept : s.erase.settingsForOrg s.now (s.queriedOrg id false)=asked.erase.settingsForOrg asked.now (s.queriedOrg id false) := rfl
      rw [hkept,← herase,← hsettings]
      unfold erase
      dsimp only [returns]
      rw [hupdate,hnow]
      rfl
    · exact hsettings
    · show t.uses++[⟨t.now,r,started r.org⟩]=_
      rw [hnow,huses]
      rfl

structure Lasting (s : Resolver) (ce : CachedReading) : Prop where
  expires : ce.expires ≤ s.now+ttl
  replaced : ce.reading.org≠"" → ∀ c∈s.replaced ce.reading, ce.expires≤c+ttl
  invalidated : ce.reading.org≠"" → ce.reading.invalidations=s.invalidated ce.reading.org

structure Inv (s : Resolver) : Prop where
  uses : ∀ u∈s.uses,s.Fresh u ∧ u.time ≤ s.now
  dev : ∀ id, ∀ ce∈s.dev id, s.Lasting ce
  lookups : ∀ l, ∀ lk∈s.lookups l, ∀ org, lk.started org ≤ s.invalidated org

theorem inv_init (tables : Tables) (now : ℕ) : (init tables now).Inv where
  uses := by simp [init]
  dev := by simp [init]
  lookups := by simp [init]

theorem current_iff : s.current r=true ↔
    (r.org≠"" → r.changes=(s.changed r.org).length ∧ r.invalidations=s.invalidated r.org) := by
  unfold current
  by_cases hr : r.org="" <;> simp [hr]

theorem not_replaced (h : r.changes=(s.changed r.org).length) : s.replaced r=none := by
  simp [replaced,h]

theorem replaced_change {org : OrgID} {c : ℕ}
    (ht : t.changed=update s.changed org (s.changed org++[s.now])) (h : t.replaced r=some c) :
    s.replaced r=some c ∨ c=s.now := by
  unfold replaced at h ⊢
  rw [ht] at h
  by_cases hr : r.org=org
  · rw [hr,update_self,List.getElem?_append] at h
    rw [hr]
    split at h
    · exact .inl h
    · right
      have hsingle:=List.mem_of_getElem? h
      simpa using hsingle
  · rw [update_of_ne hr] at h
    exact .inl h

theorem Inv.quiet (h : s.Inv) (hnow : s.now≤t.now) (hchanged : t.changed=s.changed)
    (hinvalidated : t.invalidated=s.invalidated) (huses : t.uses=s.uses) (hdev : t.dev=s.dev)
    (hlookups : ∀ l, ∀ lk∈t.lookups l, ∀ org, lk.started org ≤ s.invalidated org) : t.Inv where
  uses u hu := by
    rw [huses] at hu
    obtain ⟨hfresh,htime⟩:=h.uses u hu
    refine ⟨⟨?_,hfresh.invalidated⟩,htime.trans hnow⟩
    unfold replaced
    rw [hchanged]
    exact hfresh.ttl
  dev id ce hce := by
    rw [hdev] at hce
    obtain ⟨hexpires,hreplaced,hcurrent⟩:=h.dev id ce hce
    refine ⟨by omega,?_,?_⟩
    · unfold replaced
      rw [hchanged]
      exact hreplaced
    · rw [hinvalidated]
      exact hcurrent
  lookups := by
    rw [hinvalidated]
    exact hlookups

theorem Inv.started (h : s.Inv) {lookup : Option Lookup} (hlookup : ∀ lk∈lookup, ∀ org, lk.started org ≤ s.invalidated org) :
    ∀ l', ∀ lk∈update s.lookups l lookup l', ∀ org, lk.started org ≤ s.invalidated org := by
  intro l' lk hlk
  by_cases hl : l'=l
  · subst hl
    rw [update_self] at hlk
    exact hlookup lk hlk
  · rw [update_of_ne hl] at hlk
    exact h.lookups l' lk hlk

theorem Inv.change {org : OrgID} {tables : Tables} (h : s.Inv) : Inv {s with
    tables := tables
    changed := update s.changed org (s.changed org++[s.now])} where
  uses u hu := by
    obtain ⟨hfresh,htime⟩:=h.uses u hu
    refine ⟨⟨fun hr c hc => ?_,hfresh.invalidated⟩,htime⟩
    rcases replaced_change rfl hc with hc | hc
    · exact hfresh.ttl hr c hc
    · omega
  dev id ce hce := by
    have hlasting:=h.dev id ce hce
    refine ⟨hlasting.expires,fun hr c hc => ?_,hlasting.invalidated⟩
    rcases replaced_change rfl hc with hc | hc
    · exact hlasting.replaced hr c hc
    · rw [hc]
      exact hlasting.expires
  lookups := h.lookups

theorem Inv.invalidate {org : OrgID} (h : s.Inv) : Inv {s with
    org := update s.org org none
    dev := fun _ => none
    invalidated := update s.invalidated org (s.invalidated org+1)} where
  uses u hu := by
    obtain ⟨hfresh,htime⟩:=h.uses u hu
    exact ⟨⟨hfresh.ttl,hfresh.invalidated⟩,htime⟩
  dev := by simp
  lookups l lk hlk org' := by
    have hle:=h.lookups l lk hlk org'
    by_cases ho : org'=org
    · subst ho
      simp only [update_self]
      omega
    · simp only [update_of_ne ho]
      exact hle

theorem Inv.returns (h : s.Inv) (hlk : s.lookups l=some lk) (dev : PeerID → Option CachedReading)
    (hdev : ∀ id, ∀ ce∈dev id, s.Lasting ce)
    (httl : r.org≠"" → ∀ c∈s.replaced r, s.now≤c+ttl)
    (hr : r.org≠"" → r.invalidations=s.invalidated r.org) : Inv {s.returns l lk r with dev := dev} where
  uses u hu := by
    rcases List.mem_append.mp hu with hu | hu
    · obtain ⟨hfresh,htime⟩:=h.uses u hu
      exact ⟨⟨hfresh.ttl,hfresh.invalidated⟩,htime⟩
    · rw [List.mem_singleton.mp hu]
      refine ⟨⟨httl,fun hne => ?_⟩,le_rfl⟩
      rw [hr hne]
      exact h.lookups l lk hlk r.org
  dev id ce hce := by
    obtain ⟨hexpires,hreplaced,hinvalidated⟩:=hdev id ce hce
    exact ⟨hexpires,hreplaced,hinvalidated⟩
  lookups := h.started fun _ hlk' => absurd hlk' (not_mem_none _)

theorem Inv.access (h : s.Inv) (hlk : s.lookups l=some lk) (hok : s.storesCurrent (.access l a)=true)
    (hst : s.access l lk a=some t) : t.Inv := by
  rcases access_some hst with ⟨stage,org,mu,rfl⟩ | ⟨r,hr,rfl⟩ | ⟨r,rfl,hstage,rfl⟩
  · refine h.quiet le_rfl rfl rfl rfl rfl (h.started fun lk' hlk' => ?_)
    cases hlk'
    exact h.lookups l lk hlk
  · obtain ⟨ce,hce,rfl,hlt⟩:=live_some hr
    have hlasting:=h.dev _ ce hce
    refine h.returns hlk s.dev h.dev (fun hne c hc => ?_) hlasting.invalidated
    have hle:=hlasting.replaced hne c hc
    omega
  · have hcurrent : s.current r=true := by
      obtain ⟨deviceID,stage,started⟩:=lk
      subst hstage
      simpa [storesCurrent,hlk] using hok
    rw [current_iff] at hcurrent
    have hnone (hne : r.org≠"") : s.replaced r=none := not_replaced (hcurrent hne).1
    refine h.returns hlk _ (fun id ce hce => ?_) (fun hne c hc => ?_) fun hne => (hcurrent hne).2
    · by_cases hid : id=lk.deviceID
      · subst hid
        simp only [update_self,mem_def,some.injEq] at hce
        subst hce
        refine ⟨le_rfl,fun hne c hc => ?_,fun hne => (hcurrent hne).2⟩
        rw [hnone hne] at hc
        cases hc
      · rw [update_of_ne hid] at hce
        exact h.dev id ce hce
    · rw [hnone hne] at hc
      cases hc

theorem Inv.step {a : Action} (h : s.Inv) (hok : s.storesCurrent a=true) (hst : s.step a=some t) : t.Inv := by
  cases a with
  | advance d =>
    cases hst
    exact h.quiet (Nat.le_add_right _ d) rfl rfl rfl rfl h.lookups
  | setOrgSetting org settings =>
    cases hst
    exact h.change
  | setDeviceOrg id org =>
    cases hst
    exact h.quiet le_rfl rfl rfl rfl rfl h.lookups
  | invalidateOrg org =>
    simp only [Resolver.step] at hst
    split at hst
    · cases hst
      exact h.invalidate
    · cases hst
  | enter l deviceID =>
    simp only [Resolver.step] at hst
    split at hst
    · cases hst
    · cases hst
      refine h.quiet le_rfl rfl rfl rfl rfl (h.started fun lk' hlk' => ?_)
      cases hlk'
      exact fun _ => le_rfl
  | access l a =>
    obtain ⟨lk,hlk,hst⟩:=bind_eq_some_iff.mp hst
    exact h.access hlk hok hst

end

/-- Where every lookup stores settings that are still in force, no decision uses settings
that were replaced more than `ttl` before, or that were read before an invalidation which
the lookup began after. -/
theorem settings_fresh {tables : Tables} {now : ℕ} {as : List Action} {t : Resolver}
    (hrun : exec step (init tables now) as=some t)
    (hok : Along step (fun s a => s.storesCurrent a=true) (init tables now) as) : ∀ u∈t.uses,t.Fresh u := by
  have hinv : t.Inv := exec_invariant Inv (fun _ _ _ h hok hst => h.step hok hst) (inv_init tables now) hok hrun
  intro u hu
  exact (hinv.uses u hu).1

def acme : Tables where
  deviceOrg _ := .ok "acme"
  orgSetting _ := .ok ⟨false,[]⟩

def missing (l : LookupID) (deviceID : PeerID) : List Action :=
  [.enter l deviceID,.access l .lookDevice,.access l (.queryOrg false),.access l .lookOrg]

theorem answered_alone : ∃ s, step (init acme 0) (.enter 0 "BD1")=some s ∧
    ∃ as t r, exec step s as=some t ∧ t.erase=(s.erase.settingsForDevice s.now "BD1").2 ∧
      r.settings=(s.erase.settingsForDevice s.now "BD1").1 ∧ t.uses=s.uses++[⟨s.now,r,0⟩] :=
  ⟨_,rfl,@lookup_alone _ 0 "BD1" (fun _ => 0) rfl (by decide) rfl⟩

def kept : List Action :=
  missing 0 "BD1" ++ [.access 0 (.querySettings false),.access 0 .storeOrg,.access 0 .storeDevice,.advance 59,
    .setOrgSetting "acme" (.ok ⟨true,[]⟩),.enter 1 "BD1",.access 1 .lookDevice]

theorem kept_fresh : ∃ t, exec step (init acme 0) kept=some t ∧ t.uses.length=2 ∧ ∀ u∈t.uses,t.Fresh u := by
  have hrun : ((exec step (init acme 0) kept).map fun t => t.uses.length)=some 2 := by decide
  obtain ⟨t,ht,hlength⟩:=map_eq_some_iff.mp hrun
  exact ⟨t,ht,hlength,settings_fresh ht (by decide)⟩

def stored : List Action :=
  missing 0 "BD1" ++ [.access 0 (.querySettings false),.access 0 .storeOrg,.access 0 .storeDevice,.advance 1,
    .setOrgSetting "acme" (.ok ⟨true,[]⟩),.advance 58] ++
  missing 1 "BD2" ++ [.access 1 .storeDevice,.advance 59,.enter 2 "BD2",.access 2 .lookDevice]

def overwritten : List Action :=
  missing 0 "BD1" ++ [.access 0 (.querySettings false),.access 0 .storeOrg,
    .setOrgSetting "acme" (.ok ⟨true,[]⟩),.invalidateOrg "acme",.access 0 .storeDevice,.advance 1,.enter 1 "BD1",
    .access 1 .lookDevice]

/-- At 118 the settings of before 1 are used, and after the invalidation those of before it. -/
theorem settings_come_back : ((exec step (init acme 0) stored).any fun s => s.uses.any fun u =>
        (s.replaced u.reading).any fun c => c+ttl<u.time)=true ∧
      ((exec step (init acme 0) overwritten).any fun s => s.uses.any fun u => u.reading.invalidations<u.started)=true := by
  decide

end Resolver
end BetterDesk.Policy.Freshness
