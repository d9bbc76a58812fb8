import BetterDesk.Db.Store

/-! # Network policies of organizations (policy/network.go) -/

namespace BetterDesk.Policy
open Db Text Function

structure NetworkSettings where
  blockDirectP2P : Bool
  allowedRelayServers : List Bytes
  deriving DecidableEq

def NetworkSettings.none : NetworkSettings := ⟨false,[]⟩

structure CachedEntry where
  settings : NetworkSettings
  expires : ℕ

def ttl : ℕ := 60

/-- The tables the resolver reads: `policy_network` decoded, with what decoding
a broken entry leaves. -/
structure Tables where
  deviceOrg : PeerID → Answer OrgID
  orgSetting : OrgID → Answer NetworkSettings

structure NetworkResolver where
  tables : Tables
  org : OrgID → Option CachedEntry
  dev : PeerID → Option CachedEntry

namespace NetworkResolver
variable (r : NetworkResolver) (now : ℕ)

def live (entry : Option CachedEntry) : Option NetworkSettings :=
  (entry.filter fun ce => now<ce.expires).map CachedEntry.settings

def settingsForOrg (orgID : OrgID) : NetworkSettings × NetworkResolver :=
  if orgID="" then (.none,r)
  else match live now (r.org orgID) with
    | some settings => (settings,r)
    | none =>
      let settings := match r.tables.orgSetting orgID with
        | .ok s => s
        | .error _ => .none
      (settings,{r with org := update r.org orgID (some ⟨settings,now+ttl⟩)})

def settingsForDevice (deviceID : PeerID) : NetworkSettings × NetworkResolver :=
  if deviceID="" then (.none,r)
  else match live now (r.dev deviceID) with
    | some settings => (settings,r)
    | none =>
      let orgID := match r.tables.deviceOrg deviceID with
        | .ok id => id
        | .error _ => ""
      let (settings,r):=r.settingsForOrg now orgID
      (settings,{r with dev := update r.dev deviceID (some ⟨settings,now+ttl⟩)})

end NetworkResolver

open NetworkResolver

def shouldForceRelay (now : ℕ) : NetworkResolver → List PeerID → Bool × NetworkResolver
  | r, [] => (false,r)
  | r, id::rest =>
    let (settings,r):=r.settingsForDevice now id
    if settings.blockDirectP2P then (true,r) else shouldForceRelay now r rest

def allowedRelays (now : ℕ) : NetworkResolver → List PeerID → List Bytes × NetworkResolver
  | r, [] => ([],r)
  | r, id::rest =>
    let (settings,r):=r.settingsForDevice now id
    if settings.allowedRelayServers≠[] then (settings.allowedRelayServers,r)
    else allowedRelays now r rest

def admits (allowed : List Bytes) (relay : Bytes) : Bool :=
  allowed.any fun entry => trimSpace entry≠[]&&(trimSpace entry).isPrefixOf (trimSpace relay)

def resolveRelay (now : ℕ) (r : NetworkResolver) (defaultRelay : Bytes) (deviceIDs : List PeerID) :
    Bytes × NetworkResolver := match allowedRelays now r deviceIDs with
  | ([],r) => (defaultRelay,r)
  | (first::rest,r) =>
    (if admits (first::rest) defaultRelay then defaultRelay else trimSpace first,r)

namespace NetworkResolver
variable {r : NetworkResolver} {now : ℕ}

def allowedFor (r : NetworkResolver) (now : ℕ) (id : PeerID) : List Bytes :=
  (r.settingsForDevice now id).1.allowedRelayServers

theorem live_stored (settings : NetworkSettings) : live now (some ⟨settings,now+ttl⟩)=some settings := by
  have hlt : now<now+ttl := Nat.lt_add_of_pos_right (by decide)
  simp [live,hlt]

theorem settingsForOrg_again (r : NetworkResolver) (now : ℕ) (org org' : OrgID) :
    ((r.settingsForOrg now org).2.settingsForOrg now org').1=(r.settingsForOrg now org').1 := by
  by_cases he : org=""
  · simp [settingsForOrg,he]
  · cases hl : live now (r.org org) with
    | some settings => simp only [settingsForOrg,if_neg he,hl]
    | none =>
      simp only [settingsForOrg,if_neg he,hl]
      by_cases he' : org'=""
      · simp [he']
      · simp only [if_neg he']
        by_cases hsame : org'=org
        · rw [hsame,update_self,live_stored,hl]
        · rw [update_of_ne hsame]
          split <;> rfl

theorem settingsForOrg_dev (r : NetworkResolver) (now : ℕ) (org : OrgID) :
    (r.settingsForOrg now org).2.dev=r.dev ∧ (r.settingsForOrg now org).2.tables=r.tables := by
  unfold settingsForOrg
  split
  · exact ⟨rfl,rfl⟩
  · split <;> exact ⟨rfl,rfl⟩

def orgOf (r : NetworkResolver) (id : PeerID) : OrgID := match r.tables.deviceOrg id with
  | .ok org => org
  | .error _ => ""

theorem settingsForDevice_eq {id : PeerID} (hne : id≠"") (hl : live now (r.dev id)=none) :
    r.settingsForDevice now id=((r.settingsForOrg now (r.orgOf id)).1,
      { (r.settingsForOrg now (r.orgOf id)).2 with
        dev := update (r.settingsForOrg now (r.orgOf id)).2.dev id
          (some ⟨(r.settingsForOrg now (r.orgOf id)).1,now+ttl⟩)}) := by
  unfold settingsForDevice
  rw [if_neg hne,hl]
  rfl

theorem settingsForDevice_cached {id : PeerID} {settings : NetworkSettings} (hne : id≠"")
    (hl : live now (r.dev id)=some settings) : r.settingsForDevice now id=(settings,r) := by
  unfold settingsForDevice
  rw [if_neg hne,hl]

theorem settingsForOrg_of_dev (r : NetworkResolver) (now : ℕ) (dev : PeerID → Option CachedEntry)
    (org : OrgID) : ({r with dev := dev}.settingsForOrg now org).1=(r.settingsForOrg now org).1 := by
  unfold settingsForOrg
  split
  · rfl
  · dsimp only
    cases live now (r.org org) <;> rfl

theorem settingsForDevice_again (r : NetworkResolver) (now : ℕ) (id id' : PeerID) :
    ((r.settingsForDevice now id).2.settingsForDevice now id').1 = (r.settingsForDevice now id').1 := by
  by_cases he : id=""
  · simp [settingsForDevice,he]
  · cases hl : live now (r.dev id) with
    | some settings => rw [settingsForDevice_cached he hl]
    | none =>
      obtain ⟨hdev,htables⟩:=settingsForOrg_dev r now (r.orgOf id)
      have htables' : (r.settingsForDevice now id).2.tables=r.tables := by
        rw [settingsForDevice_eq he hl]
        exact htables
      have horg : (r.settingsForDevice now id).2.orgOf id'=r.orgOf id' := by
        rw [orgOf,htables',orgOf]
      by_cases he' : id'=""
      · simp [settingsForDevice,he']
      · by_cases hsame : id'=id
        · rw [hsame,settingsForDevice_eq he hl]
          exact congrArg Prod.fst (settingsForDevice_cached he
            (by dsimp only; rw [update_self,live_stored]))
        · have hdev' : (r.settingsForDevice now id).2.dev id'=r.dev id' := by
            rw [settingsForDevice_eq he hl]
            simp only [hdev,update_of_ne hsame]
          cases hl' : live now (r.dev id') with
          | some settings =>
            rw [settingsForDevice_cached he' hl',settingsForDevice_cached he' (hdev' ▸ hl')]
          | none =>
            rw [settingsForDevice_eq he' hl',settingsForDevice_eq he' (hdev' ▸ hl'),horg,
              settingsForDevice_eq he hl,settingsForOrg_of_dev,settingsForOrg_again]

end NetworkResolver

/-- What `resolveRelay` makes of the list that decides. -/
def pick (allowed : List Bytes) (defaultRelay : Bytes) : Bytes := match allowed with
  | [] => defaultRelay
  | first::rest => if admits (first::rest) defaultRelay then defaultRelay else trimSpace first

theorem resolveRelay_pair (now : ℕ) (r : NetworkResolver) (defaultRelay : Bytes) (i d : PeerID) :
    (resolveRelay now r defaultRelay [i,d]).1 =
      pick (if r.allowedFor now i≠[] then r.allowedFor now i else r.allowedFor now d)
        defaultRelay := by
  have hagain:=settingsForDevice_again r now i d
  have hlist : (allowedRelays now r [i,d]).1 =
      if r.allowedFor now i≠[] then r.allowedFor now i else r.allowedFor now d := by
    simp only [allowedRelays,allowedFor,hagain]
    by_cases hi : (r.settingsForDevice now i).1.allowedRelayServers=[]
    · by_cases hd : (r.settingsForDevice now d).1.allowedRelayServers=[]
      · simp [hi,hd]
      · simp [hi,hd]
    · simp [hi]
  rw [← hlist]
  unfold resolveRelay pick
  split <;> rename_i heq <;> rw [heq]

def allows (allowed : List Bytes) (relay : Bytes) : Bool := allowed=[]||admits allowed relay

/-- The first entry of the list that decides is not blank or not needed, and the
other list, if there is one, admits what comes out as well. -/
def settles (li ld : List Bytes) (defaultRelay : Bytes) : Bool := match li with
  | [] => match ld with
    | [] => true
    | first::rest => admits (first::rest) defaultRelay||trimSpace first≠[]
  | first::rest => if admits (first::rest) defaultRelay then allows ld defaultRelay
    else trimSpace first≠[]&&allows ld (trimSpace first)

theorem admits_first {first : Bytes} {rest : List Bytes} (h : trimSpace first≠[]) :
    admits (first::rest) (trimSpace first)=true := by
  have hself : (trimSpace first).isPrefixOf (trimSpace (trimSpace first))=true := by
    rw [trimSpace_trimSpace, List.isPrefixOf_iff_prefix]
  simp [admits,h,hself]

theorem allows_pick {li ld : List Bytes} {defaultRelay : Bytes}
    (h : settles li ld defaultRelay=true) :
    allows li (pick (if li≠[] then li else ld) defaultRelay)=true ∧
      allows ld (pick (if li≠[] then li else ld) defaultRelay)=true := by
  cases li with
  | nil =>
    cases ld with
    | nil => exact ⟨rfl,rfl⟩
    | cons first rest =>
      simp only [settles,Bool.or_eq_true,decide_eq_true_eq] at h
      simp only [ne_eq,not_true,if_false,pick,allows,reduceCtorEq,decide_false,Bool.false_or,
        decide_true,Bool.true_or,true_and]
      split
      · assumption
      · rename_i hno
        exact admits_first (h.resolve_left hno)
  | cons first rest =>
    simp only [ne_eq,reduceCtorEq,not_false_eq_true,if_true,pick]
    unfold settles at h
    dsimp only at h
    split at h
    · rename_i hyes
      rw [if_pos hyes]
      exact ⟨by rw [allows,hyes,Bool.or_true],h⟩
    · rename_i hno
      rw [if_neg hno]
      simp only [Bool.and_eq_true,decide_eq_true_eq] at h
      exact ⟨by rw [allows,admits_first h.1,Bool.or_true],h.2⟩

end BetterDesk.Policy
