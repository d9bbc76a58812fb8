import BetterDesk.Lib.SyncMap
import BetterDesk.Panel.DeviceGroups

/-! # The scope of the Go server (db/console_auth.go, api/rustdesk_groups.go) -/

namespace BetterDesk.Policy.DeviceVisibility
open Panel.DeviceGroups List Option
open Text (trimString)
open AddressBook (Area DeviceGroup Peer groupArea folderArea knownPeer panelAccessAllowed panelAreas panelGroupPeerIDs
  peerHasTag taggedPeers unscopedRole consoleUserGroupGUIDs userPeerGrants)
open Db (PeerID)

/-- `noTable` is `hasTable` being false, which it is too when its own query fails. -/
inductive Outcome where
  | answers | noTable | fails | breaksOff (after : ℕ)

/-- A listing that looks at `rows.Err` in the end. -/
def Outcome.rows {α : Type*} (o : Outcome) (l : List α) : Option (List α) :=
  match o with
  | answers => some l
  | noTable => some []
  | fails | breaksOff _ => none

def Outcome.uncheckedRows {α : Type*} (o : Outcome) (l : List α) : Option (List α) :=
  match o with
  | answers => some l
  | noTable => some []
  | fails => none
  | breaksOff n => some (l.take n)

/-- The access list of a group is read with the groups, and that of a folder twice. -/
inductive Reading where
  | listing | first | second
deriving DecidableEq

inductive Query where
  | scopeDefault | userPeerGrants | panelDeviceGroups
  | userAccess (r : Reading) (group : ℤ) | groupAccess (r : Reading) (group : ℤ)
  | userGroupGUIDs | folderAssignments | folders (r : Reading) | folderGroup (r : Reading) (folder : ℤ)
  | members (group : ℤ)
deriving DecidableEq

abbrev Outcomes := Query → Outcome

def answering : Outcomes := fun _ => .answers

section Store
variable (t : Tables) (o : Outcomes)

def loadDeviceGroupAccess (r : Reading) (group : ℤ) : List String × List String :=
  match (o (.userAccess r group)).uncheckedRows (t.userAccess group) with
  | none => ([],[])
  | some users =>
    match (o (.groupAccess r group)).uncheckedRows (t.groupAccess group) with
    | none => (users,[])
    | some guids => (users,guids)

/-- `guid LIKE 'folder_%'`, where `_` is any character. -/
def likeFolder (guid : String) : Bool :=
  (guid.toList.take 6).map Char.toLower="folder".toList&&7≤guid.length

def toDeviceGroup (g : GroupRow) : DeviceGroup :=
  { id := g.id
    sourceType := if g.sourceType="" then "manual" else g.sourceType
    tagFilter := g.tagFilter
    allowedUsers := (loadDeviceGroupAccess t o .listing g.id).1
    allowedGroupGUIDs := (loadDeviceGroupAccess t o .listing g.id).2}

def panelRows : List GroupRow := t.deviceGroups.filter fun g => !likeFolder g.guid

def listPanelDeviceGroups : Option (List DeviceGroup) :=
  ((o .panelDeviceGroups).rows (panelRows t)).map fun rows => rows.map (toDeviceGroup t o)

def folderGroupGUID (folder : ℤ) : String := "folder_" ++ toString folder

def folderGroupAccess (r : Reading) (folder : ℤ) : List String × List String :=
  match o (.folderGroup r folder), t.groupByGuid (folderGroupGUID folder) with
  | .answers, some g => loadDeviceGroupAccess t o r g.id
  | _, _ => ([],[])

def listFolders (r : Reading) : List ℤ := ((o (.folders r)).rows t.folders).getD []

/-- `strings.TrimSpace`, and what is empty left out. -/
def cleaned (ids : List PeerID) : List PeerID := (ids.map trimString).filter fun id => id≠""

def listFolderAssignments : SyncMap PeerID ℤ :=
  (((o .folderAssignments).rows t.folderAssignments).getD []).foldl (fun out e =>
    if trimString e.1="" then out else out.store (trimString e.1) e.2) []

end Store

section Server
variable (c : Console) (o : Outcomes)

def deviceScopeDefaultRestricted : Bool :=
  let environment:=c.unicode.equalFold (trimString (c.environment.getD "")) "restricted"
  match o .scopeDefault, c.tables.deviceScopeDefault with
  | .answers, some value =>
    if trimString value="" then environment else c.unicode.equalFold (trimString value) "restricted"
  | _, _ => environment

def panelStore : AddressBook.Panel where
  restrictedDefault := deviceScopeDefaultRestricted c o
  userIDByUsername _ := none
  userPeerGrants user := cleaned (((o .userPeerGrants).rows (c.tables.userPeerGrants user)).getD [])
  userGroupGUIDs user :=
    (((o .userGroupGUIDs).rows (c.tables.userGroups user)).getD []).filter fun guid => guid≠""
  deviceGroups := listPanelDeviceGroups c.tables o
  groupMembers group := cleaned (((o (.members group)).rows (c.tables.deviceGroupMembers group)).getD [])
  folders := listFolders c.tables o .second
  folderAccess := folderGroupAccess c.tables o .second
  folderAssignments := listFolderAssignments c.tables o

def hasRestricted (groups : List DeviceGroup) : Bool :=
  (groups.any fun g => g.allowedUsers≠[]||g.allowedGroupGUIDs≠[]) ||
    (listFolders c.tables o .first).any fun folder =>
      (folderGroupAccess c.tables o .first folder).1≠[]||(folderGroupAccess c.tables o .first folder).2≠[]

/-- `none` stands for every device. -/
def rustDeskVisiblePeerSet : Option (PeerID → Bool) :=
  if unscopedRole c.role then none
  else match listPanelDeviceGroups c.tables o with
    | none => none
    | some groups =>
      let panel:=panelStore c o
      let grants:=userPeerGrants panel c.user
      if hasRestricted c o groups=false ∧ grants=[] then
        if panel.restrictedDefault then some fun _ => false else none
      else
        let areas:=panelAreas c.unicode panel groups c.peers
        let given (a : Area) : Bool := panelAccessAllowed c.user c.role
          (consoleUserGroupGUIDs panel c.user.id) a.allowedUsers a.allowedGroups
        let allowed (id : PeerID) : Bool := id∈grants||areas.any fun a => given a&&id∈a.peerIDs
        let restricted (id : PeerID) : Bool := areas.any fun a => !given a&&id∈a.peerIDs
        some fun id =>
          if panel.restrictedDefault then allowed id
          else knownPeer c.peers id&&(!restricted id||allowed id)

def serverShows : List PeerID :=
  (c.peers.map Peer.id).filter fun id => match rustDeskVisiblePeerSet c o with
    | none => true
    | some visible => visible id

end Server

theorem rustDeskVisiblePeerSet_eq {c : Console} {o : Outcomes} (hfolders : o (.folders .first)=o (.folders .second))
    (haccess : ∀ folder, folderGroupAccess c.tables o .first folder=folderGroupAccess c.tables o .second folder) :
    rustDeskVisiblePeerSet c o =
      AddressBook.rustDeskVisiblePeerSet c.unicode (some (panelStore c o)) c.user c.role c.peers := by
  rw [rustDeskVisiblePeerSet,AddressBook.rustDeskVisiblePeerSet]
  have hstore : (panelStore c o).deviceGroups=listPanelDeviceGroups c.tables o := rfl
  simp only [hstore]
  cases unscopedRole c.role with
  | true => rfl
  | false =>
    cases listPanelDeviceGroups c.tables o with
    | none => rfl
    | some groups =>
      have hareas : hasRestricted c o groups=false ↔
          panelAreas c.unicode (panelStore c o) groups c.peers=[] := by
        have hlist : listFolders c.tables o .first=(panelStore c o).folders := by
          rw [listFolders,hfolders]
          rfl
        simp only [hasRestricted,hlist,haccess,panelAreas,filter_eq_nil_iff,mem_append,List.mem_map,
          Bool.or_eq_false_iff,List.any_eq_false]
        constructor
        · intro h a ha
          cases ha with
          | inl ha =>
            obtain ⟨g,hg,rfl⟩:=ha
            exact h.1 g hg
          | inr ha =>
            obtain ⟨folder,hf,rfl⟩:=ha
            exact h.2 folder hf
        · intro h
          exact ⟨fun g hg => h _ (Or.inl ⟨g,hg,rfl⟩),fun folder hf => h _ (Or.inr ⟨folder,hf,rfl⟩)⟩
      simp [hareas]

section Scope
variable (c : Console) (o : Outcomes)

def looksAt : GroupRow ⊕ ℤ → Prop
  | .inl g => o .panelDeviceGroups=.answers ∧ g∈panelRows c.tables
  | .inr folder => folder∈listFolders c.tables o .second

def areaOf : GroupRow ⊕ ℤ → Area
  | .inl g => groupArea c.unicode (panelStore c o) c.peers (toDeviceGroup c.tables o g)
  | .inr folder => folderArea (panelStore c o) c.peers folder

def given (a : Area) : Bool :=
  panelAccessAllowed c.user c.role (consoleUserGroupGUIDs (panelStore c o) c.user.id) a.allowedUsers a.allowedGroups

def serverScope : AccessScope (GroupRow ⊕ ℤ) PeerID where
  rules := {i | looksAt c o i ∧ (areaOf c o i).listed=true}
  admits i := given c o (areaOf c o i)=true
  covers i := {x | x∈(areaOf c o i).peerIDs}
  grants := {x | x∈userPeerGrants (panelStore c o) c.user}
  restricted := deviceScopeDefaultRestricted c o=true

variable {c o}

variable {i : GroupRow ⊕ ℤ} {x : PeerID}

@[simp] theorem mem_serverScope_rules :
    i∈(serverScope c o).rules ↔ looksAt c o i ∧ (areaOf c o i).listed=true := Iff.rfl

@[simp] theorem serverScope_admits : (serverScope c o).admits i ↔ given c o (areaOf c o i)=true := Iff.rfl

@[simp] theorem mem_serverScope_covers : x∈(serverScope c o).covers i ↔ x∈(areaOf c o i).peerIDs := Iff.rfl

@[simp] theorem mem_serverScope_grants :
    x∈(serverScope c o).grants ↔ x∈userPeerGrants (panelStore c o) c.user := Iff.rfl

@[simp] theorem serverScope_restricted :
    (serverScope c o).restricted ↔ deviceScopeDefaultRestricted c o=true := Iff.rfl

section Listed
variable {groups : List DeviceGroup} (hgroups : listPanelDeviceGroups c.tables o=some groups)
include hgroups

theorem mem_groups {g : DeviceGroup} :
    g∈groups ↔ o .panelDeviceGroups=.answers ∧ ∃ row∈panelRows c.tables, toDeviceGroup c.tables o row=g := by
  rw [listPanelDeviceGroups] at hgroups
  cases ho : o .panelDeviceGroups with
  | answers =>
    rw [ho,Outcome.rows,map_some,some.injEq] at hgroups
    rw [← hgroups,List.mem_map]
    simp
  | noTable =>
    rw [ho,Outcome.rows,map_some,some.injEq] at hgroups
    rw [← hgroups]
    simp
  | fails | breaksOff => simp [ho,Outcome.rows] at hgroups

theorem mem_panelAreas {a : Area} : a∈panelAreas c.unicode (panelStore c o) groups c.peers ↔
      ∃ i, (looksAt c o i ∧ (areaOf c o i).listed=true) ∧ areaOf c o i=a := by
  simp only [panelAreas,mem_filter,mem_append,List.mem_map,mem_groups hgroups]
  constructor
  · intro h
    obtain ⟨ha,hlisted⟩:=h
    cases ha with
    | inl ha =>
      obtain ⟨g,⟨ho,row,hrow,rfl⟩,rfl⟩:=ha
      exact ⟨.inl row,⟨⟨ho,hrow⟩,hlisted⟩,rfl⟩
    | inr ha =>
      obtain ⟨folder,hfolder,rfl⟩:=ha
      exact ⟨.inr folder,⟨hfolder,hlisted⟩,rfl⟩
  · intro h
    obtain ⟨i,⟨hlook,hlisted⟩,rfl⟩:=h
    cases i with
    | inl row => exact ⟨Or.inl ⟨_,⟨hlook.1,row,hlook.2,rfl⟩,rfl⟩,hlisted⟩
    | inr folder => exact ⟨Or.inr ⟨folder,hlook,rfl⟩,hlisted⟩

theorem areas_any {p : Area → Bool} : ((panelAreas c.unicode (panelStore c o) groups c.peers).any p)=true ↔
      ∃ i∈(serverScope c o).rules, p (areaOf c o i)=true := by
  rw [List.any_eq_true]
  constructor
  · intro h
    obtain ⟨a,ha,hp⟩:=h
    obtain ⟨i,hi,rfl⟩:=(mem_panelAreas hgroups).mp ha
    exact ⟨i,hi,hp⟩
  · intro h
    obtain ⟨i,hi,hp⟩:=h
    exact ⟨areaOf c o i,(mem_panelAreas hgroups).mpr ⟨i,hi,rfl⟩,hp⟩

end Listed

theorem serverShows_subset : serverShows c o ⊆ c.peers.map Peer.id := fun _ hx => mem_of_mem_filter hx

theorem serverShows_of_none (h : rustDeskVisiblePeerSet c o=none) : serverShows c o=c.peers.map Peer.id := by
  simp [serverShows,h]

theorem knownPeer_iff {peers : List Peer} : knownPeer peers x=true ↔ x∈peers.map Peer.id := by
  simp [knownPeer]

section Scoped
variable (hrole : unscopedRole c.role=false) {groups : List DeviceGroup}
  (hgroups : listPanelDeviceGroups c.tables o=some groups)
include hrole hgroups

theorem mem_serverShows_of_early (h : hasRestricted c o groups=false ∧ userPeerGrants (panelStore c o) c.user=[])
    {x : PeerID} : x∈serverShows c o ↔ x∈c.peers.map Peer.id ∧ deviceScopeDefaultRestricted c o=false := by
  have hset : rustDeskVisiblePeerSet c o =
      if deviceScopeDefaultRestricted c o then some fun _ => false else none := by
    rw [rustDeskVisiblePeerSet,hrole,hgroups]
    simp only [Bool.false_eq_true,if_false,h,and_self,if_true]
    rfl
  rw [serverShows,hset,mem_filter]
  cases deviceScopeDefaultRestricted c o <;> simp

theorem mem_serverShows_of_late (h : ¬ (hasRestricted c o groups=false ∧ userPeerGrants (panelStore c o) c.user=[]))
    {x : PeerID} : x∈serverShows c o ↔ x∈c.peers.map Peer.id ∧ x∈(serverScope c o).visible := by
  have hallowed : x∈(serverScope c o).allowed ↔ (x∈userPeerGrants (panelStore c o) c.user ∨
      ((panelAreas c.unicode (panelStore c o) groups c.peers).any fun a => given c o a&&x∈a.peerIDs)=true) := by
    rw [AccessScope.mem_allowed,areas_any hgroups]
    simp
  have hheld : x∈(serverScope c o).heldBack ↔
      ((panelAreas c.unicode (panelStore c o) groups c.peers).any fun a => !given c o a&&x∈a.peerIDs)=true := by
    rw [AccessScope.mem_heldBack,areas_any hgroups]
    simp
  have hset : ∃ visible, rustDeskVisiblePeerSet c o=some visible ∧
      (x∈c.peers.map Peer.id → (visible x=true ↔ x∈(serverScope c o).visible)) := by
    rw [rustDeskVisiblePeerSet,hrole,hgroups]
    simp only [Bool.false_eq_true,if_false,if_neg h]
    refine ⟨_,rfl,?_⟩
    intro hx
    have hknown : knownPeer c.peers x=true := knownPeer_iff.mpr hx
    rw [AccessScope.mem_visible,hallowed,hheld,serverScope_restricted]
    cases hmode : deviceScopeDefaultRestricted c o with
    | true =>
      have hr : (panelStore c o).restrictedDefault=true := hmode
      simp only [hr,if_true,given,Bool.or_eq_true,decide_eq_true_eq]
      simp
    | false =>
      have hr : (panelStore c o).restrictedDefault=false := hmode
      simp only [hr,hknown,Bool.false_eq_true,if_false,given,Bool.and_eq_true,Bool.or_eq_true,
        Bool.not_eq_true',decide_eq_true_eq,Bool.not_eq_true]
      tauto
  obtain ⟨visible,hvis,hiff⟩:=hset
  rw [serverShows,hvis,mem_filter]
  exact and_congr_right hiff

end Scoped
end Scope

structure AreaLe (a b : Area) : Prop where
  users : a.allowedUsers ⊆ b.allowedUsers
  groups : a.allowedGroups ⊆ b.allowedGroups
  peerIDs : a.peerIDs ⊆ b.peerIDs

variable {a : Area}

theorem listed_iff : a.listed=true ↔ a.allowedUsers≠[] ∨ a.allowedGroups≠[] := by
  simp [Area.listed]

theorem AreaLe.listed {b : Area} (h : AreaLe a b) (ha : a.listed=true) : b.listed=true := by
  rw [listed_iff] at ha ⊢
  apply ha.imp
  · exact fun hne hb => hne (subset_nil.mp (hb ▸ h.users))
  · exact fun hne hb => hne (subset_nil.mp (hb ▸ h.groups))

theorem AreaLe.allowed {b : Area} (h : AreaLe a b) (ha : a.listed=true) {user : AddressBook.ScopeUser}
    {role : Auth.Role} {guids guids' : List String} (hguids : guids ⊆ guids')
    (hallowed : panelAccessAllowed user role guids a.allowedUsers a.allowedGroups=true) :
    panelAccessAllowed user role guids' b.allowedUsers b.allowedGroups=true := by
  rw [listed_iff] at ha
  simp only [panelAccessAllowed,Bool.or_eq_true,Bool.and_eq_true,decide_eq_true_eq,List.any_eq_true] at hallowed ⊢
  refine hallowed.imp (Or.imp (Or.imp_right ?_) ?_) ?_
  · intro hnil
    exact absurd hnil (by tauto)
  · intro hmem
    exact h.users hmem
  · intro hany
    obtain ⟨guid,hguid,hmem⟩:=hany
    exact ⟨guid,h.groups hguid,hguids hmem⟩

section Queries
variable {t : Tables} {o : Outcomes}

theorem listPanelDeviceGroups_answering :
    listPanelDeviceGroups t answering=some ((panelRows t).map (toDeviceGroup t answering)) := rfl

theorem folderGroupAccess_answering (r : Reading) (folder : ℤ) :
    folderGroupAccess t answering r folder = match t.groupByGuid (folderGroupGUID folder) with
      | some g => (t.userAccess g.id,t.groupAccess g.id)
      | none => ([],[]) := by
  rw [folderGroupAccess]
  cases t.groupByGuid (folderGroupGUID folder) with
  | none => rfl
  | some g => rfl

theorem rows_subset {α : Type*} (out : Outcome) (l : List α) : (out.rows l).getD [] ⊆ l := by
  cases out with
  | answers => exact List.Subset.refl l
  | noTable | fails | breaksOff => exact nil_subset l

theorem uncheckedRows_subset {α : Type*} {out : Outcome} {l l' : List α} (h : out.uncheckedRows l=some l') :
    l' ⊆ l := by
  cases out with
  | answers =>
    cases h
    exact List.Subset.refl l
  | noTable =>
    cases h
    exact nil_subset l
  | fails => cases h
  | breaksOff n =>
    cases h
    exact take_subset n l

theorem loadDeviceGroupAccess_subset (r : Reading) (group : ℤ) :
    (loadDeviceGroupAccess t o r group).1 ⊆ t.userAccess group ∧
      (loadDeviceGroupAccess t o r group).2 ⊆ t.groupAccess group := by
  rw [loadDeviceGroupAccess]
  cases hu : (o (.userAccess r group)).uncheckedRows (t.userAccess group) with
  | none => exact ⟨nil_subset _,nil_subset _⟩
  | some users =>
    cases hg : (o (.groupAccess r group)).uncheckedRows (t.groupAccess group) with
    | none => exact ⟨uncheckedRows_subset hu,nil_subset _⟩
    | some guids => exact ⟨uncheckedRows_subset hu,uncheckedRows_subset hg⟩

theorem folderGroupAccess_subset (r : Reading) (folder : ℤ) :
    (folderGroupAccess t o r folder).1 ⊆ (folderGroupAccess t answering .second folder).1 ∧
      (folderGroupAccess t o r folder).2 ⊆ (folderGroupAccess t answering .second folder).2 := by
  rw [folderGroupAccess_answering,folderGroupAccess]
  cases ho : o (.folderGroup r folder) with
  | answers =>
    cases t.groupByGuid (folderGroupGUID folder) with
    | none => exact ⟨nil_subset _,nil_subset _⟩
    | some g => exact loadDeviceGroupAccess_subset r g.id
  | noTable | fails | breaksOff => exact ⟨nil_subset _,nil_subset _⟩

theorem cleaned_subset {l l' : List PeerID} (h : l ⊆ l') : cleaned l ⊆ cleaned l' := by
  intro x hx
  simp only [cleaned,mem_filter,List.mem_map] at hx ⊢
  obtain ⟨⟨raw,hraw,rfl⟩,hne⟩:=hx
  exact ⟨⟨raw,h hraw,rfl⟩,hne⟩

theorem listFolderAssignments_subset : listFolderAssignments t o ⊆ listFolderAssignments t answering := by
  cases ho : o .folderAssignments with
  | answers =>
    rw [listFolderAssignments,ho]
    exact List.Subset.refl _
  | noTable | fails | breaksOff =>
    rw [listFolderAssignments,ho]
    exact nil_subset _

end Queries

section Scope
variable {c : Console} {o : Outcomes}

theorem mem_panelGroupPeerIDs {u : AddressBook.Unicode} {panel : AddressBook.Panel} {g : DeviceGroup}
    {peers : List Peer} {x : PeerID} : x∈panelGroupPeerIDs u panel g peers none ↔
      (∃ raw, (raw∈panel.groupMembers g.id ∨ raw∈(taggedPeers u g peers).map Peer.id) ∧ trimString raw=x) ∧
        x≠"" ∧ x∈peers.map Peer.id := by
  rw [panelGroupPeerIDs,mem_eraseDups,mem_filter,List.mem_map]
  simp [knownPeer_iff]

theorem areaOf_le (i : GroupRow ⊕ ℤ) : AreaLe (areaOf c o i) (areaOf c answering i) := by
  cases i with
  | inl g =>
    refine ⟨(loadDeviceGroupAccess_subset .listing g.id).1,(loadDeviceGroupAccess_subset .listing g.id).2,?_⟩
    intro x hx
    simp only [areaOf,groupArea] at hx ⊢
    rw [mem_panelGroupPeerIDs] at hx ⊢
    obtain ⟨⟨raw,hraw,htrim⟩,hx⟩:=hx
    exact ⟨⟨raw,hraw.imp_left (fun h => cleaned_subset (rows_subset _ _) h),htrim⟩,hx⟩
  | inr folder =>
    refine ⟨(folderGroupAccess_subset .second folder).1,(folderGroupAccess_subset .second folder).2,?_⟩
    intro x hx
    simp only [areaOf,folderArea,List.mem_map,mem_filter] at hx ⊢
    obtain ⟨e,⟨he,hp⟩,rfl⟩:=hx
    exact ⟨e,⟨listFolderAssignments_subset he,hp⟩,rfl⟩

theorem looksAt_answering {i : GroupRow ⊕ ℤ} (h : looksAt c o i) : looksAt c answering i := by
  cases i with
  | inl g => exact ⟨rfl,h.2⟩
  | inr folder => exact rows_subset _ _ h

theorem consoleUserGroupGUIDs_subset :
    consoleUserGroupGUIDs (panelStore c o) c.user.id ⊆ consoleUserGroupGUIDs (panelStore c answering) c.user.id := by
  intro guid h
  rw [consoleUserGroupGUIDs] at h ⊢
  by_cases hid : c.user.id≤0
  · simp [hid] at h
  · rw [if_neg hid] at h ⊢
    obtain ⟨hmem,hne⟩:=mem_filter.mp h
    exact mem_filter.mpr ⟨rows_subset _ _ hmem,hne⟩

theorem userPeerGrants_subset :
    userPeerGrants (panelStore c o) c.user ⊆ userPeerGrants (panelStore c answering) c.user := by
  intro x h
  rw [userPeerGrants] at h ⊢
  by_cases hid : 0<c.user.id
  · rw [if_pos hid] at h ⊢
    exact cleaned_subset (rows_subset _ _) h
  · simp [hid] at h

theorem given_answering {i : GroupRow ⊕ ℤ} (hlisted : (areaOf c o i).listed=true)
    (h : given c o (areaOf c o i)=true) : given c answering (areaOf c answering i)=true :=
  (areaOf_le i).allowed hlisted consoleUserGroupGUIDs_subset h

end Scope

section Failing
variable {c : Console} {o : Outcomes}

variable {groups : List DeviceGroup} {i : GroupRow ⊕ ℤ}

theorem hasRestricted_of_group (hgroups : listPanelDeviceGroups c.tables o=some groups)
    {g : GroupRow} (hlook : looksAt c o (.inl g)) (hlisted : (areaOf c o (.inl g)).listed=true) :
    hasRestricted c o groups=true := by
  rw [hasRestricted,Bool.or_eq_true]
  refine Or.inl (any_eq_true.mpr ⟨toDeviceGroup c.tables o g,?_,hlisted⟩)
  exact (mem_groups hgroups).mpr ⟨hlook.1,g,hlook.2,rfl⟩

theorem hasRestricted_of_folder {folder : ℤ} (hfolder : folder∈listFolders c.tables o .first)
    (hlisted : (folderGroupAccess c.tables o .first folder).1≠[] ∨ (folderGroupAccess c.tables o .first folder).2≠[]) :
    hasRestricted c o groups=true := by
  rw [hasRestricted,Bool.or_eq_true]
  exact Or.inr (any_eq_true.mpr ⟨folder,hfolder,by simpa using hlisted⟩)

theorem hasRestricted_answering (h : hasRestricted c answering ((panelRows c.tables).map (toDeviceGroup c.tables answering))=false)
    (i : GroupRow ⊕ ℤ) : i∉(serverScope c answering).rules := by
  intro hi
  obtain ⟨hlook,hlisted⟩:=hi
  have htrue : hasRestricted c answering ((panelRows c.tables).map (toDeviceGroup c.tables answering))=true := by
    cases i with
    | inl g => exact hasRestricted_of_group listPanelDeviceGroups_answering hlook hlisted
    | inr folder => exact hasRestricted_of_folder hlook (listed_iff.mp hlisted)
  rw [h] at htrue
  cases htrue

theorem mem_serverShows (hrole : unscopedRole c.role=false) {x : PeerID} :
    x∈serverShows c answering ↔ x∈c.peers.map Peer.id ∧ x∈(serverScope c answering).visible := by
  by_cases h : hasRestricted c answering ((panelRows c.tables).map (toDeviceGroup c.tables answering))=false ∧
      userPeerGrants (panelStore c answering) c.user=[]
  · have hvisible : x∈(serverScope c answering).visible ↔ ¬ (serverScope c answering).restricted := by
      apply AccessScope.mem_visible_of_empty (hasRestricted_answering h.1)
      rw [mem_serverScope_grants,h.2]
      exact not_mem_nil
    rw [mem_serverShows_of_early hrole listPanelDeviceGroups_answering h,hvisible,serverScope_restricted,
      Bool.not_eq_true]
  · exact mem_serverShows_of_late hrole listPanelDeviceGroups_answering h

/-- The devices that a rule covers are found: its list does not come out empty, and the queries
for its devices answer. -/
def FindsArea (c : Console) (o : Outcomes) : GroupRow ⊕ ℤ → Prop
  | .inl g => o .panelDeviceGroups=.answers ∧ o (.members g.id)=.answers ∧ (areaOf c o (.inl g)).listed=true
  | .inr folder => o (.folders .first)=.answers ∧ o (.folders .second)=.answers ∧
      o .folderAssignments=.answers ∧ (areaOf c o (.inr folder)).listed=true ∧
      ((folderGroupAccess c.tables o .first folder).1≠[] ∨ (folderGroupAccess c.tables o .first folder).2≠[])

/-- The failing queries open nothing: the groups are listed, the mode stays restricted where it is,
and where the server takes it to be open the devices that are held back are found. -/
structure ServerHolds (c : Console) (o : Outcomes) : Prop where
  listing : listPanelDeviceGroups c.tables o≠none
  mode : deviceScopeDefaultRestricted c answering=true → deviceScopeDefaultRestricted c o=true
  found : deviceScopeDefaultRestricted c o=false → ∀ i∈(serverScope c answering).rules,
    given c answering (areaOf c answering i)=false → FindsArea c o i

theorem FindsArea.looksAt (h : FindsArea c o i) (hi : looksAt c answering i) : looksAt c o i := by
  cases i with
  | inl g => exact ⟨h.1,hi.2⟩
  | inr folder =>
    rw [DeviceVisibility.looksAt,listFolders,h.2.1]
    exact hi

theorem FindsArea.listed (h : FindsArea c o i) : (areaOf c o i).listed=true := by
  cases i with
  | inl g => exact h.2.2
  | inr folder => exact h.2.2.2.1

theorem FindsArea.peerIDs (h : FindsArea c o i) : (areaOf c answering i).peerIDs ⊆ (areaOf c o i).peerIDs := by
  intro x hx
  cases i with
  | inl g =>
    simp only [areaOf,groupArea] at hx ⊢
    rw [mem_panelGroupPeerIDs] at hx ⊢
    have hmembers : (panelStore c o).groupMembers g.id=(panelStore c answering).groupMembers g.id := by
      simp only [panelStore,h.2.1,answering]
    obtain ⟨⟨raw,hraw,htrim⟩,hx⟩:=hx
    refine ⟨⟨raw,hraw.imp_left ?_,htrim⟩,hx⟩
    intro hmem
    exact hmembers ▸ hmem
  | inr folder =>
    have hassign : listFolderAssignments c.tables o=listFolderAssignments c.tables answering := by
      rw [listFolderAssignments,h.2.2.1]
      rfl
    simpa only [areaOf,folderArea,panelStore,hassign] using hx

theorem FindsArea.hasRestricted (h : FindsArea c o i) (hi : DeviceVisibility.looksAt c answering i)
    (hgroups : listPanelDeviceGroups c.tables o=some groups) : hasRestricted c o groups=true := by
  cases i with
  | inl g => exact hasRestricted_of_group hgroups ⟨h.1,hi.2⟩ h.2.2
  | inr folder =>
    have hfolder : folder∈listFolders c.tables o .first := by
      rw [listFolders,h.1]
      exact hi
    exact hasRestricted_of_folder hfolder h.2.2.2.2

theorem server_fails_closed (h : ServerHolds c o) : serverShows c o ⊆ serverShows c answering := by
  cases hrole : unscopedRole c.role with
  | true =>
    have hall (o : Outcomes) : serverShows c o=c.peers.map Peer.id := by
      apply serverShows_of_none
      rw [rustDeskVisiblePeerSet,hrole]
      rfl
    rw [hall,hall]
    exact List.Subset.refl _
  | false =>
    obtain ⟨groups,hgroups⟩:=ne_none_iff_exists'.mp h.listing
    intro x hx
    rw [mem_serverShows hrole]
    have hheld : deviceScopeDefaultRestricted c o=false → ∀ i∈(serverScope c answering).rules,
        ¬ (serverScope c answering).admits i → FindsArea c o i := by
      intro hopen i hi ha
      exact h.found hopen i hi (by simpa using ha)
    by_cases hearly : hasRestricted c o groups=false ∧ userPeerGrants (panelStore c o) c.user=[]
    · obtain ⟨hpeer,hopen⟩:=(mem_serverShows_of_early hrole hgroups hearly).mp hx
      -- with no rule seen nothing is held back, since a rule that does would have been
      refine ⟨hpeer,AccessScope.mem_visible.mpr (Or.inr ⟨?_,?_⟩)⟩
      · intro hr
        rw [h.mode hr] at hopen
        cases hopen
      · intro hback
        obtain ⟨i,hi,ha,-⟩:=hback
        have hseen:=(hheld hopen i hi ha).hasRestricted hi.1 hgroups
        rw [hearly.1] at hseen
        cases hseen
    · obtain ⟨hpeer,hvisible⟩:=(mem_serverShows_of_late hrole hgroups hearly).mp hx
      refine ⟨hpeer,AccessScope.visible_subset h.mode ?_ ?_ hvisible⟩
      · apply AccessScope.allowed_mono
        · exact userPeerGrants_subset
        · intro i hi ha
          exact ⟨⟨looksAt_answering hi.1,(areaOf_le i).listed hi.2⟩,given_answering hi.2 ha,(areaOf_le i).peerIDs⟩
      · intro hopen
        rw [serverScope_restricted,Bool.not_eq_true] at hopen
        apply AccessScope.heldBack_anti
        intro i hi ha
        have hfinds:=hheld hopen i hi ha
        exact ⟨⟨hfinds.looksAt hi.1,hfinds.listed⟩,fun hb => ha (given_answering hfinds.listed hb),hfinds.peerIDs⟩

end Failing

section Grown
variable {c c' : Console} (hgrow : Grows c c')
include hgrow

theorem server_restricted_of_grows :
    deviceScopeDefaultRestricted c' answering=deviceScopeDefaultRestricted c answering := by
  have h:=hgrow.alike
  simp only [deviceScopeDefaultRestricted,h.unicode,h.environment,h.deviceScopeDefault]

variable {i : GroupRow ⊕ ℤ}

theorem looksAt_of_grows : looksAt c' answering i ↔ looksAt c answering i := by
  have h:=hgrow.alike
  cases i with
  | inl g => simp only [looksAt,panelRows,h.deviceGroups]
  | inr folder => simp only [looksAt,listFolders,h.folders]

theorem groupByGuid_of_grows (guid : String) : c'.tables.groupByGuid guid=c.tables.groupByGuid guid := by
  rw [Tables.groupByGuid,Tables.groupByGuid,hgrow.alike.deviceGroups]

theorem peerIDs_of_grows (i : GroupRow ⊕ ℤ) : (areaOf c' answering i).peerIDs=(areaOf c answering i).peerIDs := by
  have h:=hgrow.alike
  cases i with
  | inl g =>
    simp only [areaOf,groupArea,panelGroupPeerIDs,taggedPeers,panelStore,toDeviceGroup,h.unicode,h.peers,
      h.deviceGroupMembers]
    rfl
  | inr folder =>
    simp only [areaOf,folderArea,panelStore,listFolderAssignments,h.peers,h.folderAssignments]

theorem list_of_grows (i : GroupRow ⊕ ℤ) :
    (areaOf c' answering i).allowedGroups=(areaOf c answering i).allowedGroups ∧
      ((areaOf c' answering i).allowedUsers=(areaOf c answering i).allowedUsers ∨
        Inserted c.user.username (areaOf c answering i).allowedUsers (areaOf c' answering i).allowedUsers) := by
  cases i with
  | inl g => exact ⟨congrFun hgrow.alike.groupAccess g.id,hgrow.userAccess g.id⟩
  | inr folder =>
    simp only [areaOf,folderArea,panelStore,folderGroupAccess_answering,groupByGuid_of_grows hgrow]
    cases c.tables.groupByGuid (folderGroupGUID folder) with
    | none => exact ⟨rfl,Or.inl rfl⟩
    | some g => exact ⟨congrFun hgrow.alike.groupAccess g.id,hgrow.userAccess g.id⟩

theorem areaLe_of_grows (i : GroupRow ⊕ ℤ) : AreaLe (areaOf c answering i) (areaOf c' answering i) := by
  obtain ⟨hgroups,husers⟩:=list_of_grows hgrow i
  refine ⟨?_,fun guid hguid => by rwa [hgroups],fun x hx => by rwa [peerIDs_of_grows hgrow]⟩
  intro name hname
  cases husers with
  | inl h => rwa [h]
  | inr h => exact h.mem.mpr (Or.inr hname)

theorem consoleUserGroupGUIDs_of_grows :
    consoleUserGroupGUIDs (panelStore c answering) c.user.id ⊆ consoleUserGroupGUIDs (panelStore c' answering) c'.user.id := by
  intro guid h
  rw [consoleUserGroupGUIDs] at h ⊢
  rw [hgrow.alike.user]
  by_cases hid : c.user.id≤0
  · simp [hid] at h
  · rw [if_neg hid] at h ⊢
    obtain ⟨hmem,hne⟩:=mem_filter.mp h
    exact mem_filter.mpr ⟨hgrow.userGroups hmem,hne⟩

theorem given_of_grows (hlisted : (areaOf c answering i).listed=true)
    (h : given c answering (areaOf c answering i)=true) : given c' answering (areaOf c' answering i)=true := by
  have hle:=(areaLe_of_grows hgrow i).allowed hlisted (consoleUserGroupGUIDs_of_grows hgrow) h
  rw [hgrow.alike.user] at hle
  rwa [given,hgrow.alike.user,hgrow.alike.role]

theorem listed_of_refused (hlisted : (areaOf c' answering i).listed=true)
    (h : given c' answering (areaOf c' answering i)=false) : (areaOf c answering i).listed=true := by
  obtain ⟨hgroups,husers⟩:=list_of_grows hgrow i
  cases husers with
  | inl husers =>
    rw [listed_iff] at hlisted ⊢
    rwa [← husers,← hgroups]
  | inr husers =>
    have hmem : c'.user.username∈(areaOf c' answering i).allowedUsers := by
      rw [hgrow.alike.user,husers.mem]
      exact Or.inl rfl
    simp [given,panelAccessAllowed,hmem] at h

theorem serverScope_of_grows : (serverScope c answering).visible ⊆ (serverScope c' answering).visible := by
  apply AccessScope.visible_subset
  · rw [serverScope_restricted,serverScope_restricted,server_restricted_of_grows hgrow]
    exact id
  · apply AccessScope.allowed_mono
    · intro x hx
      rw [mem_serverScope_grants,userPeerGrants] at hx ⊢
      rw [hgrow.alike.user]
      by_cases hid : 0<c.user.id
      · rw [if_pos hid] at hx ⊢
        exact cleaned_subset (fun _ h => hgrow.userPeerGrants h) hx
      · simp [hid] at hx
    · intro i hi ha
      exact ⟨⟨(looksAt_of_grows hgrow).mpr hi.1,(areaLe_of_grows hgrow i).listed hi.2⟩,given_of_grows hgrow hi.2 ha,
        (areaLe_of_grows hgrow i).peerIDs⟩
  · intro _
    apply AccessScope.heldBack_anti
    intro i hi ha
    rw [serverScope_admits,Bool.not_eq_true] at ha
    have hlisted:=listed_of_refused hgrow hi.2 ha
    refine ⟨⟨(looksAt_of_grows hgrow).mp hi.1,hlisted⟩,?_,?_⟩
    · intro hb
      rw [given_of_grows hgrow hlisted hb] at ha
      cases ha
    · intro x hx
      rw [mem_serverScope_covers] at hx ⊢
      rwa [peerIDs_of_grows hgrow] at hx

theorem server_keeps : serverShows c answering ⊆ serverShows c' answering := by
  have hpeers : c'.peers=c.peers := hgrow.alike.peers
  cases hrole : unscopedRole c.role with
  | true =>
    have hrole' : unscopedRole c'.role=true := by rwa [hgrow.alike.role]
    have hall (d : Console) (hd : unscopedRole d.role=true) : serverShows d answering=d.peers.map Peer.id := by
      apply serverShows_of_none
      rw [rustDeskVisiblePeerSet,hd]
      rfl
    rw [hall c hrole,hall c' hrole',hpeers]
    exact List.Subset.refl _
  | false =>
    intro x hx
    rw [mem_serverShows hrole] at hx
    rw [mem_serverShows (by rwa [hgrow.alike.role]),hpeers]
    exact ⟨hx.1,serverScope_of_grows hgrow hx.2⟩

end Grown

end BetterDesk.Policy.DeviceVisibility
